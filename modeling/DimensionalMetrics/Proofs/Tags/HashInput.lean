import DimensionalMetrics.Number.Word
import DimensionalMetrics.Proofs.Tags.Lookup
import DimensionalMetrics.Proofs.Text.Utf8
import Mathlib.Data.List.Basic
import Mathlib.Data.Nat.ModEq

/-!
# The hashed bytes tell identities apart

What is hashed of an identity has no marks that could be mistaken.  A text ends at the first byte
that no text has in it, the number of tags always takes eight bytes, whatever they are, and as many
tags follow as that number says.  So the bytes of one identity are never those of another one, nor
the start of them, and two identities with one hash are a collision of the hash function itself.
-/

namespace DimensionalMetrics

/-! ### Encodings that know their own end -/

/-- Whatever comes after a code, it is read as what was written, and the rest is left. -/
def SelfDelimiting {α : Type} (encode : α → List UInt8) : Prop :=
  ∀ {a b : α} {rest rest' : List UInt8},
    encode a ++ rest = encode b ++ rest' → a = b ∧ rest = rest'

namespace SelfDelimiting

variable {α : Type} {encode : α → List UInt8}

/-- Codes in a row are the start of others only if they stand for the start of what these do. -/
theorem flatMap_prefix_iff (h : SelfDelimiting encode) (hne : ∀ a, encode a ≠ []) {as bs : List α} :
    as.flatMap encode <+: bs.flatMap encode ↔ as <+: bs := by
  constructor
  · intro hprefix
    induction as generalizing bs with
    | nil => exact List.nil_prefix
    | cons a as ih =>
      obtain ⟨rest, hrest⟩ := hprefix
      cases bs with
      | nil =>
        simp only [List.flatMap_cons, List.flatMap_nil, List.append_eq_nil_iff] at hrest
        exact absurd hrest.1.1 (hne a)
      | cons b bs =>
        rw [List.flatMap_cons, List.flatMap_cons, List.append_assoc] at hrest
        obtain ⟨rfl, htail⟩ := h hrest
        exact List.cons_prefix_cons.mpr ⟨rfl, ih ⟨rest, htail⟩⟩
  · rintro ⟨more, rfl⟩
    rw [List.flatMap_append]
    exact List.prefix_append _ _

end SelfDelimiting

/-! ### Texts -/

/-- Neither a first byte nor a later one of a character has all bits set. -/
theorem delimiter_notMem_utf8EncodeChar (c : Char) : 0xff ∉ String.utf8EncodeChar c := by
  have hne : ∀ n : Nat, n < 0xff → (0xff : UInt8) ≠ UInt8.ofNat n := by
    intro n hn h
    have hbyte : 0xff = (UInt8.ofNat n).toNat := congrArg UInt8.toNat h
    rw [UInt8.toNat_ofNat'] at hbyte
    omega
  simp only [String.utf8EncodeChar]
  split
  · simp only [List.mem_singleton]
    exact hne _ (by omega)
  split
  · simp only [List.mem_cons, List.not_mem_nil, or_false, not_or]
    exact ⟨hne _ (by omega), hne _ (by omega)⟩
  split
  · simp only [List.mem_cons, List.not_mem_nil, or_false, not_or]
    exact ⟨hne _ (by omega), hne _ (by omega), hne _ (by omega)⟩
  · simp only [List.mem_cons, List.not_mem_nil, or_false, not_or]
    exact ⟨hne _ (by omega), hne _ (by omega), hne _ (by omega), hne _ (by omega)⟩

theorem delimiter_notMem_utf8 (s : String) : 0xff ∉ utf8 s := by
  intro h
  obtain ⟨c, -, hc⟩ := List.mem_flatMap.mp h
  exact delimiter_notMem_utf8EncodeChar c hc

theorem utf8_injective : Function.Injective utf8 := by
  intro a b h
  have hnot : ∀ {a b : String}, utf8 a = utf8 b → ¬ a < b := by
    intro a b h hlt
    rw [← utf8_lt_utf8_iff, h] at hlt
    exact List.lt_irrefl _ hlt
  exact string_eq_of_not_lt (hnot h) (hnot h.symm)

/-- A byte that marks an end does so at the first place where it stands. -/
theorem append_delimiter_inj {d : UInt8} {as bs rest rest' : List UInt8} (ha : d ∉ as) (hb : d ∉ bs)
    (h : as ++ d :: rest = bs ++ d :: rest') : as = bs ∧ rest = rest' := by
  induction as generalizing bs with
  | nil =>
    cases bs with
    | nil => exact ⟨rfl, (List.cons.inj h).2⟩
    | cons b bs => exact absurd ((List.cons.inj h).1 ▸ List.mem_cons_self) hb
  | cons a as ih =>
    cases bs with
    | nil => exact absurd ((List.cons.inj h).1 ▸ List.mem_cons_self) ha
    | cons b bs =>
      obtain ⟨rfl, htail⟩ := List.cons.inj h
      obtain ⟨rfl, hrest⟩ := ih (List.not_mem_of_not_mem_cons ha) (List.not_mem_of_not_mem_cons hb)
        htail
      exact ⟨rfl, hrest⟩

theorem selfDelimiting_hashedString : SelfDelimiting hashedString := by
  intro a b rest rest' h
  have hend : utf8 a ++ 0xff :: rest = utf8 b ++ 0xff :: rest' := by
    simpa only [hashedString, utf8, List.append_assoc, List.cons_append, List.nil_append] using h
  obtain ⟨htext, hrest⟩ :=
    append_delimiter_inj (delimiter_notMem_utf8 a) (delimiter_notMem_utf8 b) hend
  exact ⟨utf8_injective htext, hrest⟩

theorem selfDelimiting_hashedTag : SelfDelimiting hashedTag := by
  rintro ⟨k, v⟩ ⟨k', v'⟩ rest rest' h
  simp only [hashedTag, List.append_assoc] at h
  obtain ⟨hkey, hvalued⟩ := selfDelimiting_hashedString h
  obtain ⟨hvalue, hrest⟩ := selfDelimiting_hashedString hvalued
  exact ⟨Prod.ext hkey hvalue, hrest⟩

theorem hashedTag_ne_nil (t : Tag) : hashedTag t ≠ [] := by
  simp [hashedTag, hashedString]

/-! ### The number of tags -/

theorem length_littleEndianBytes (n : Nat) : (littleEndianBytes n).length = 8 := rfl

theorem mod_mul_eq_iff {n m b c : Nat} :
    n % (b * c) = m % (b * c) ↔ n % b = m % b ∧ n / b % c = m / b % c := by
  constructor
  · intro h
    constructor
    · rw [← Nat.mod_mul_right_mod n b c, h, Nat.mod_mul_right_mod]
    · rw [← Nat.mod_mul_right_div_self, h, Nat.mod_mul_right_div_self]
  · rintro ⟨hlow, hhigh⟩
    rw [Nat.mod_mul, Nat.mod_mul, hlow, hhigh]

/-- The first bytes tell a number modulo a power of `256`. -/
theorem leadingBytes_eq_iff {n m : Nat} (k : Nat) :
    (List.range k).map (fun i => UInt8.ofNat (n >>> (8 * i))) =
      (List.range k).map (fun i => UInt8.ofNat (m >>> (8 * i))) ↔
        n % 256 ^ k = m % 256 ^ k := by
  induction k with
  | zero => simp [Nat.mod_one]
  | succ k ih =>
    have hshift : ∀ a : Nat, (a >>> (8 * k)) % 256 = a / 256 ^ k % 256 := by
      intro a
      rw [Nat.shiftRight_eq_div_pow, Nat.pow_mul]
    have hbyte : UInt8.ofNat (n >>> (8 * k)) = UInt8.ofNat (m >>> (8 * k)) ↔
        n / 256 ^ k % 256 = m / 256 ^ k % 256 := by
      rw [← UInt8.toNat_inj, UInt8.toNat_ofNat', UInt8.toNat_ofNat', ← hshift, ← hshift]
    rw [List.range_succ, List.map_append, List.map_append, List.map_singleton, List.map_singleton,
      List.append_singleton_inj, ih, hbyte, Nat.pow_succ, mod_mul_eq_iff]

/-- Eight bytes tell a number modulo `2 ^ 64`. -/
theorem littleEndianBytes_eq_iff {n m : Nat} :
    littleEndianBytes n = littleEndianBytes m ↔ n ≡ m [MOD wordCount] :=
  leadingBytes_eq_iff 8

/-! ### Identities -/

/-- **One input is the start of another** only if the names are the same, the tags are the first
ones of the other, and their numbers cannot be told apart in eight bytes. -/
theorem hashedBytes_prefix_iff {name name' : String} {ts us : Tags} :
    hashedBytes name ts <+: hashedBytes name' us ↔
      name = name' ∧ ts.size ≡ us.size [MOD wordCount] ∧ ts.toList <+: us.toList := by
  constructor
  · rintro ⟨rest, hrest⟩
    simp only [hashedBytes, List.append_assoc] at hrest
    obtain ⟨hname, hcounted⟩ := selfDelimiting_hashedString hrest
    obtain ⟨hcount, htags⟩ := List.append_inj hcounted
      (by rw [length_littleEndianBytes, length_littleEndianBytes])
    refine ⟨hname, littleEndianBytes_eq_iff.mp hcount, ?_⟩
    exact (selfDelimiting_hashedTag.flatMap_prefix_iff hashedTag_ne_nil).mp ⟨rest, htags⟩
  · rintro ⟨rfl, hcount, htags⟩
    rw [hashedBytes, hashedBytes, littleEndianBytes_eq_iff.mpr hcount, List.prefix_append_right_inj]
    exact (selfDelimiting_hashedTag.flatMap_prefix_iff hashedTag_ne_nil).mpr htags

/-- Two inputs with one hash. -/
def XXHash64.Collision (seed : UInt64) (bytes bytes' : List UInt8) : Prop :=
  bytes ≠ bytes' ∧ hash seed bytes = hash seed bytes'

namespace Id

theorem ne_of_differ {a b : Id} (h : a.name ≠ b.name ∨ ∃ key, a.tag? key ≠ b.tag? key) :
    a ≠ b := by
  rintro rfl
  rcases h with h | ⟨key, h⟩
  · exact h rfl
  · exact h rfl

theorem eq_of_hashedBytes_eq {a b : Id}
    (h : hashedBytes a.name a.tags = hashedBytes b.name b.tags) : a = b := by
  have hab : hashedBytes a.name a.tags <+: hashedBytes b.name b.tags := by rw [h]
  have hba : hashedBytes b.name b.tags <+: hashedBytes a.name a.tags := by rw [h]
  obtain ⟨hname, -, hab⟩ := hashedBytes_prefix_iff.mp hab
  obtain ⟨-, -, hba⟩ := hashedBytes_prefix_iff.mp hba
  exact Id.ext hname (Tags.ext (hab.eq_of_length_le hba.length_le))

/-- The number of tags is a length, and so it is a word. -/
theorem eq_of_hashedBytes_prefix {a b : Id} (ha : a.tags.size < wordCount)
    (hb : b.tags.size < wordCount)
    (h : hashedBytes a.name a.tags <+: hashedBytes b.name b.tags) : a = b := by
  obtain ⟨hname, hcount, htags⟩ := hashedBytes_prefix_iff.mp h
  exact Id.ext hname (Tags.ext (htags.eq_of_length (hcount.eq_of_lt_of_lt ha hb)))

end Id

/-- **The hashed bytes tell identities apart.**  If the names differ, or the values of some key, then
the inputs of the hash differ.  Neither is the start of the other, as long as both numbers of tags are
words, which lengths are.  So if the hashes are the same, the inputs are a collision of the hash
function. -/
theorem hashed_bytes_unambiguous {a b : Id}
    (hdiffer : a.name ≠ b.name ∨ ∃ key, a.tag? key ≠ b.tag? key) :
    hashedBytes a.name a.tags ≠ hashedBytes b.name b.tags ∧
      (a.tags.size < wordCount → b.tags.size < wordCount →
        ¬ hashedBytes a.name a.tags <+: hashedBytes b.name b.tags ∧
          ¬ hashedBytes b.name b.tags <+: hashedBytes a.name a.tags) ∧
      (a.hash = b.hash → XXHash64.Collision identitySeed
        (hashedBytes a.name a.tags) (hashedBytes b.name b.tags)) := by
  have hne : a ≠ b := Id.ne_of_differ hdiffer
  have hbytes : hashedBytes a.name a.tags ≠ hashedBytes b.name b.tags :=
    fun h => hne (Id.eq_of_hashedBytes_eq h)
  refine ⟨hbytes, ?_, ?_⟩
  · intro ha hb
    exact ⟨fun h => hne (Id.eq_of_hashedBytes_prefix ha hb h),
      fun h => hne (Id.eq_of_hashedBytes_prefix hb ha h).symm⟩
  · intro hhash
    rw [a.hash_eq, b.hash_eq] at hhash
    exact ⟨hbytes, hhash⟩

/-- The tags of one identity are the first ones of the other, which has one more, with an empty
value. -/
theorem longer_tags_hash_unambiguous :
    let a := Id.ofTags "a" ⟨[("b", "c")], List.pairwise_singleton _ _⟩
    let b := Id.ofTags "a" ⟨[("b", "c"), ("d", "")], by unfold StrictlyKeyed; decide⟩
    a.tag? "d" ≠ b.tag? "d" ∧ a.tags.toList <+: b.tags.toList ∧
      hashedBytes a.name a.tags ≠ hashedBytes b.name b.tags ∧
      ¬ hashedBytes a.name a.tags <+: hashedBytes b.name b.tags ∧
      ¬ hashedBytes b.name b.tags <+: hashedBytes a.name a.tags := by
  intro a b
  have hdiffer : a.tag? "d" ≠ b.tag? "d" := by decide
  obtain ⟨hbytes, hprefix, -⟩ := hashed_bytes_unambiguous (.inr ⟨"d", hdiffer⟩)
  obtain ⟨hab, hba⟩ := hprefix (by decide) (by decide)
  exact ⟨hdiffer, ⟨[("d", "")], rfl⟩, hbytes, hab, hba⟩

end DimensionalMetrics
