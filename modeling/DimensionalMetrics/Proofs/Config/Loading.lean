import DimensionalMetrics.Config.Reader
import DimensionalMetrics.Proofs.Json.Suffixes
import DimensionalMetrics.Proofs.Time.Increments

/-!
# When loading a configuration breaks off

Loading answers with a configuration or with an error, but for one case: it breaks off when it comes
to a duration that makes the last second full.  `Reaches` says which values a loading comes to, one
constructor for each kind of member or item that it reads or passes over before.
-/

namespace DimensionalMetrics.Config

open Json (Fault)
open Json.Scan

/-! ### Steps one after the other -/

section Steps

variable {ε α β : Type} {x : Except ε α} {f : α → Except ε β}

theorem exists_of_bind_eq_ok {b : β} (h : (x >>= f) = .ok b) : ∃ a, x = .ok a ∧ f a = .ok b := by
  cases x with
  | error e => cases h
  | ok a => exact ⟨a, rfl, h⟩

theorem bind_eq_error {e : ε} (h : (x >>= f) = .error e) :
    x = .error e ∨ ∃ a, x = .ok a ∧ f a = .error e := by
  cases x with
  | error e' => exact .inl (congrArg _ (Except.error.inj h))
  | ok a => exact .inr ⟨a, rfl, h⟩

end Steps

/-! ### What a reading leaves -/

variable {cs rest : List Char}

theorem eq_ok_of_lift_eq_ok {α : Type} {x : Except Fault α} {a : α} (h : lift x = .ok a) :
    x = .ok a := by
  cases x with
  | error e => cases h
  | ok b => exact congrArg _ (Except.ok.inj h)

/-- A string that is read stands in the text between quotes. -/
theorem stands_of_readString {wanted : Wanted} {s : String}
    (h : readString wanted cs = .ok (s, rest)) :
    ∃ after, '"' :: after <:+ cs ∧ string after = .ok (s.toList, rest) := by
  unfold readString at h
  split at h
  · rename_i after hspace
    obtain ⟨⟨ds, rest'⟩, hlift, heq⟩ := exists_of_map_eq_ok h
    obtain ⟨rfl, rfl⟩ := Prod.mk.inj heq
    refine ⟨after, hspace ▸ skipSpace_suffix cs, ?_⟩
    rw [String.toList_ofList]
    exact eq_ok_of_lift_eq_ok hlift
  · cases h

theorem suffix_of_readString {wanted : Wanted} {s : String}
    (h : readString wanted cs = .ok (s, rest)) : rest <:+ cs := by
  obtain ⟨after, hafter, hstring⟩ := stands_of_readString h
  exact ((suffix_of_string hstring).trans (List.suffix_cons _ after)).trans hafter

theorem suffix_of_readDuration {d : Duration} (h : readDuration cs = .ok (d, rest)) :
    rest <:+ cs := by
  unfold readDuration at h
  split at h
  · cases h
  · rename_i s rest' hstring
    split at h
    · obtain ⟨rfl, rfl⟩ := Prod.mk.inj (Except.ok.inj h)
      exact suffix_of_readString hstring
    · cases h
    · cases h

theorem suffix_of_readSize {n : Nat} (h : readSize cs = .ok (n, rest)) : rest <:+ cs := by
  unfold readSize at h
  split at h
  · cases h
  · rename_i c cs' hspace
    split at h
    · split at h
      · cases h
      · rename_i numeral rest' hnumeral
        split at h
        · cases h
        · obtain ⟨rfl, rfl⟩ := Prod.mk.inj (Except.ok.inj h)
          exact (suffix_of_numeral hnumeral).trans (hspace ▸ skipSpace_suffix cs)
        · cases h
        · cases h
    · cases h

theorem suffix_of_colon (h : colon cs = .ok rest) : rest <:+ cs := by
  unfold colon at h
  split at h
  · cases h
  · rename_i c cs' hspace
    split at h
    · obtain rfl := Except.ok.inj h
      exact suffix_of_skipSpace_cons hspace
    · cases h

/-- The text after the quote or the brace is shorter than the text before. -/
theorem suffix_of_nextKey {first : Bool} {next : List Char ⊕ List Char}
    (h : nextKey first cs = .ok next) :
    next.elim id id <:+ cs ∧ (next.elim id id).length < cs.length := by
  unfold nextKey at h
  split at h
  · cases h
  · rename_i c cs₁ hspace
    have hcs := suffix_of_skipSpace_cons hspace
    have hlt := length_of_skipSpace hspace
    split at h
    · obtain rfl := Except.ok.inj h
      exact ⟨hcs, hlt⟩
    split at h
    · split at h
      · obtain rfl := Except.ok.inj h
        exact ⟨hcs, hlt⟩
      · cases h
    split at h
    · split at h
      · cases h
      · rename_i d cs₂ hspace'
        split at h
        · obtain rfl := Except.ok.inj h
          exact ⟨(suffix_of_skipSpace_cons hspace').trans hcs,
            Nat.lt_trans (length_of_skipSpace hspace') hlt⟩
        · cases h
    · cases h

theorem suffix_of_readTagMembers {fuel : Nat} {first : Bool} {ts : List Tag}
    (h : readTagMembers fuel first cs = .ok (ts, rest)) : rest <:+ cs := by
  induction fuel generalizing first cs ts with
  | zero => cases h
  | succ fuel ih =>
    rw [readTagMembers] at h
    obtain ⟨next, hkey, h⟩ := exists_of_bind_eq_ok h
    have hnext := (suffix_of_nextKey hkey).1
    rcases next with cs₁ | cs₁
    · obtain ⟨⟨key, cs₂⟩, hstring, h⟩ := exists_of_bind_eq_ok h
      obtain ⟨cs₃, hcolon, h⟩ := exists_of_bind_eq_ok h
      obtain ⟨⟨value, cs₄⟩, hvalue, h⟩ := exists_of_bind_eq_ok h
      obtain ⟨⟨more, cs₅⟩, hmore, h⟩ := exists_of_bind_eq_ok h
      obtain ⟨rfl, rfl⟩ := Prod.mk.inj (Except.ok.inj h)
      have hstring := suffix_of_string (eq_ok_of_lift_eq_ok hstring)
      exact ((((ih hmore).trans (suffix_of_readString hvalue)).trans (suffix_of_colon hcolon)).trans
        hstring).trans hnext
    · obtain ⟨rfl, rfl⟩ := Prod.mk.inj (Except.ok.inj h)
      exact hnext

theorem suffix_of_readTags {ts : Tags} (h : readTags cs = .ok (ts, rest)) : rest <:+ cs := by
  unfold readTags at h
  split at h
  · rename_i cs' hspace
    obtain ⟨⟨members, rest'⟩, hmembers, heq⟩ := exists_of_map_eq_ok h
    obtain ⟨rfl, rfl⟩ := Prod.mk.inj heq
    exact (suffix_of_readTagMembers hmembers).trans (suffix_of_skipSpace_cons hspace)
  · cases h

theorem suffix_of_readMember {d d' : Draft} {m : Member}
    (h : d.readMember m cs = .ok (d', rest)) : rest <:+ cs := by
  cases m with
  | frequency =>
    obtain ⟨⟨v, rest'⟩, hread, heq⟩ := exists_of_map_eq_ok h
    obtain ⟨rfl, rfl⟩ := Prod.mk.inj heq
    exact suffix_of_readDuration hread
  | timeout =>
    obtain ⟨⟨v, rest'⟩, hread, heq⟩ := exists_of_map_eq_ok h
    obtain ⟨rfl, rfl⟩ := Prod.mk.inj heq
    exact suffix_of_readDuration hread
  | uri =>
    obtain ⟨⟨v, rest'⟩, hread, heq⟩ := exists_of_map_eq_ok h
    obtain ⟨rfl, rfl⟩ := Prod.mk.inj heq
    exact suffix_of_readString hread
  | batchSize =>
    obtain ⟨⟨v, rest'⟩, hread, heq⟩ := exists_of_map_eq_ok h
    obtain ⟨rfl, rfl⟩ := Prod.mk.inj heq
    exact suffix_of_readSize hread
  | commonTags =>
    obtain ⟨⟨v, rest'⟩, hread, heq⟩ := exists_of_map_eq_ok h
    obtain ⟨rfl, rfl⟩ := Prod.mk.inj heq
    exact suffix_of_readTags hread

/-! ### The values that a loading comes to -/

/-- The next member of an object has this key, and its value stands at `value`. -/
def NextMember (first : Bool) (cs : List Char) (key : String) (value : List Char) : Prop :=
  ∃ quoted ds rest, nextKey first cs = .ok (.inl quoted) ∧ string quoted = .ok (ds, rest) ∧
    String.ofList ds = key ∧ colon rest = .ok value

/-- Reading the members of an object comes to the value of `m`, which stands at `value`. -/
inductive MembersReach : Bool → Draft → List Char → Member → List Char → Prop
  | here {first : Bool} {d : Draft} {cs value : List Char} {m : Member}
      (hnext : NextMember first cs m.key value) (hnew : d.has m = false) :
      MembersReach first d cs m value
  | known {first : Bool} {d d' : Draft} {cs value rest value' : List Char} {m m' : Member}
      (hnext : NextMember first cs m.key value) (hnew : d.has m = false)
      (hread : d.readMember m value = .ok (d', rest))
      (hrest : MembersReach false d' rest m' value') : MembersReach first d cs m' value'
  | unknown {first : Bool} {d : Draft} {cs value rest value' : List Char} {m' : Member}
      {key : String} (hnext : NextMember first cs key value) (hkey : Member.ofKey? key = none)
      (hskip : skip value = .ok rest) (hrest : MembersReach false d rest m' value') :
      MembersReach first d cs m' value'

/-- The next item of an array stands at `value`. -/
def NextItem (first : Bool) (cs value : List Char) : Prop :=
  ∃ c rest, value = c :: rest ∧ c ≠ ']' ∧
    if first then skipSpace cs = value else ∃ rest', skipSpace cs = ',' :: rest' ∧ skipSpace rest' = value

/-- Reading the items of an array, as the given members in turn, comes to the value of `m`. -/
inductive ItemsReach : Bool → Draft → List Member → List Char → Member → List Char → Prop
  | here {first : Bool} {d : Draft} {cs value : List Char} {m : Member} {ms : List Member}
      (hnext : NextItem first cs value) : ItemsReach first d (m :: ms) cs m value
  | next {first : Bool} {d d' : Draft} {cs value rest value' : List Char} {m m' : Member}
      {ms : List Member} (hnext : NextItem first cs value)
      (hread : d.readMember m value = .ok (d', rest))
      (hrest : ItemsReach false d' ms rest m' value') : ItemsReach first d (m :: ms) cs m' value'

/-- Loading a text comes to the value of `m`, which stands at `value`. -/
def Reaches (text : String) (m : Member) (value : List Char) : Prop :=
  (∃ cs, skipSpace text.toList = '\x7b' :: cs ∧ MembersReach true {} cs m value) ∨
    ∃ cs, skipSpace text.toList = '[' :: cs ∧ ItemsReach true {} Member.all cs m value

theorem suffix_of_nextMember {first : Bool} {key : String} {value : List Char}
    (h : NextMember first cs key value) : value <:+ cs ∧ value.length < cs.length := by
  obtain ⟨quoted, ds, rest, hkey, hstring, -, hcolon⟩ := h
  obtain ⟨hcs, hlt⟩ := suffix_of_nextKey hkey
  have hvalue := (suffix_of_colon hcolon).trans (suffix_of_string hstring)
  exact ⟨hvalue.trans hcs, Nat.lt_of_le_of_lt hvalue.length_le hlt⟩

theorem suffix_of_nextItem {first : Bool} {value : List Char} (h : NextItem first cs value) :
    value <:+ cs := by
  obtain ⟨c, rest, rfl, -, h⟩ := h
  split at h
  · exact h ▸ skipSpace_suffix cs
  · obtain ⟨rest', hspace, hspace'⟩ := h
    exact (hspace' ▸ skipSpace_suffix rest').trans (suffix_of_skipSpace_cons hspace)

theorem MembersReach.suffix {first : Bool} {d : Draft} {m : Member} {value : List Char}
    (h : MembersReach first d cs m value) : value <:+ cs := by
  induction h with
  | here hnext hnew => exact (suffix_of_nextMember hnext).1
  | known hnext hnew hread hrest ih =>
    exact (ih.trans (suffix_of_readMember hread)).trans (suffix_of_nextMember hnext).1
  | unknown hnext hkey hskip hrest ih =>
    exact (ih.trans (suffix_of_skip hskip)).trans (suffix_of_nextMember hnext).1

theorem ItemsReach.suffix {first : Bool} {d : Draft} {ms : List Member} {m : Member}
    {value : List Char} (h : ItemsReach first d ms cs m value) : value <:+ cs := by
  induction h with
  | here hnext => exact suffix_of_nextItem hnext
  | next hnext hread hrest ih =>
    exact (ih.trans (suffix_of_readMember hread)).trans (suffix_of_nextItem hnext)

/-- A value that a loading comes to stands in the text. -/
theorem Reaches.suffix {text : String} {m : Member} {value : List Char}
    (h : Reaches text m value) : value <:+ text.toList := by
  obtain ⟨cs, hspace, h⟩ | ⟨cs, hspace, h⟩ := h
  · exact h.suffix.trans (suffix_of_skipSpace_cons hspace)
  · exact h.suffix.trans (suffix_of_skipSpace_cons hspace)

/-! ### A value that cannot be read is the answer -/

/-- What is wrong with the value of a member, if anything is. -/
def Refuses (m : Member) (value : List Char) (e : LoadError) : Prop :=
  ∀ d : Draft, d.readMember m value = .error e

theorem refuses_of_readMember {d : Draft} {m : Member} {value : List Char} {e : LoadError}
    (h : d.readMember m value = .error e) : Refuses m value e := by
  have hmap : ∀ {α : Type} {x : Except LoadError α} {f g : α → Draft × List Char},
      x.map f = .error e → x.map g = .error e := by
    intro α x f g hx
    cases x with
    | error e' => exact hx
    | ok a => cases hx
  intro d'
  cases m <;> exact hmap h

theorem ofKey?_key (m : Member) : Member.ofKey? m.key = some m := by
  cases m <;> decide

theorem key_of_ofKey? {key : String} {m : Member} (h : Member.ofKey? key = some m) :
    m.key = key := by
  simpa using List.find?_some h

/-- Reading members goes on with the value of the next one. -/
theorem readMembers_of_nextMember {first : Bool} {key : String} {value : List Char}
    (h : NextMember first cs key value) (fuel : Nat) (d : Draft) :
    readMembers (fuel + 1) first d cs =
      match Member.ofKey? key with
      | some m =>
        if d.has m then .error (.duplicate m)
        else d.readMember m value >>= fun (d, rest) => readMembers fuel false d rest
      | none => lift (skip value) >>= fun rest => readMembers fuel false d rest := by
  obtain ⟨quoted, ds, rest, hkey, hstring, rfl, hcolon⟩ := h
  rw [readMembers]
  simp only [bind, Except.bind, hkey, hstring, lift]
  cases Member.ofKey? (String.ofList ds) with
  | none => simp only [hcolon]
  | some m =>
    cases hnew : d.has m with
    | true => simp only [hnew, if_true]
    | false => simp only [hnew, Bool.false_eq_true, if_false, hcolon]

/-- Reading items goes on with the value of the next one. -/
theorem readItems_of_nextItem {first : Bool} {value : List Char} (h : NextItem first cs value)
    (d : Draft) (m : Member) (ms : List Member) :
    readItems first d (m :: ms) cs =
      d.readMember m value >>= fun (d, rest) => readItems false d ms rest := by
  obtain ⟨c, rest, rfl, hc, h⟩ := h
  rw [readItems.eq_def]
  cases first with
  | true => simp only [(show skipSpace cs = c :: rest from h), if_neg hc, if_true]
  | false =>
    obtain ⟨rest', hspace, hspace'⟩ := (show ∃ rest', _ ∧ _ from h)
    simp [hspace, hspace', hc]

theorem readMembers_of_reach {fuel : Nat} {first : Bool} {d : Draft} {m : Member}
    {value : List Char} {e : LoadError} (h : MembersReach first d cs m value)
    (he : Refuses m value e) (hfuel : cs.length < fuel) :
    readMembers fuel first d cs = .error e := by
  induction h generalizing fuel with
  | here hnext hnew =>
    obtain ⟨fuel, rfl⟩ := Nat.exists_eq_succ_of_ne_zero (Nat.ne_zero_of_lt hfuel)
    rw [readMembers_of_nextMember hnext, ofKey?_key]
    simp [hnew, he _, bind, Except.bind]
  | known hnext hnew hread hrest ih =>
    obtain ⟨fuel, rfl⟩ := Nat.exists_eq_succ_of_ne_zero (Nat.ne_zero_of_lt hfuel)
    have hvalue := (suffix_of_nextMember hnext).2
    have hrest := (suffix_of_readMember hread).length_le
    rw [readMembers_of_nextMember hnext, ofKey?_key]
    simpa [hnew, hread, bind, Except.bind] using ih he (by omega)
  | unknown hnext hkey hskip hrest ih =>
    obtain ⟨fuel, rfl⟩ := Nat.exists_eq_succ_of_ne_zero (Nat.ne_zero_of_lt hfuel)
    have hvalue := (suffix_of_nextMember hnext).2
    have hrest := (suffix_of_skip hskip).length_le
    rw [readMembers_of_nextMember hnext, hkey]
    simpa [hskip, lift, bind, Except.bind] using ih he (by omega)

theorem readItems_of_reach {first : Bool} {d : Draft} {ms : List Member} {m : Member}
    {value : List Char} {e : LoadError} (h : ItemsReach first d ms cs m value)
    (he : Refuses m value e) : readItems first d ms cs = .error e := by
  induction h with
  | here hnext =>
    rw [readItems_of_nextItem hnext, he]
    rfl
  | next hnext hread hrest ih =>
    rw [readItems_of_nextItem hnext, hread]
    exact ih he

/-- **A value that a loading comes to and cannot read decides its answer.** -/
theorem read_of_reaches {text : String} {m : Member} {value : List Char} {e : LoadError}
    (h : Reaches text m value) (he : Refuses m value e) : Config.read text = .error e := by
  obtain ⟨cs, hspace, h⟩ | ⟨cs, hspace, h⟩ := h
  · rw [Config.read, hspace]
    simp only [readMembers_of_reach h he (Nat.lt_succ_self _)]
    rfl
  · rw [Config.read, hspace]
    simp only [readItems_of_reach h he]
    rfl

/-! ### Nothing else breaks off -/

/-- A step of a loading that does not break it off. -/
def Answers {α : Type} (x : Except LoadError α) : Prop := x ≠ .error .durationCarry

namespace Answers

variable {α β : Type} {x : Except LoadError α}

theorem ok (a : α) : Answers (.ok a) := by simp [Answers]

theorem json (e : Fault) : Answers (.error (.json e) : Except LoadError α) := by simp [Answers]

theorem wrongType (found : Found) (wanted : Wanted) :
    Answers (.error (.wrongType found wanted) : Except LoadError α) := by simp [Answers]

theorem wrongValue (found : Found) (wanted : Wanted) :
    Answers (.error (.wrongValue found wanted) : Except LoadError α) := by simp [Answers]

theorem lift (x : Except Fault α) : Answers (Config.lift x) := by
  cases x with
  | ok a => exact ok a
  | error e => exact json e

theorem map (hx : Answers x) (f : α → β) : Answers (x.map f) := by
  cases x with
  | ok a => exact ok (f a)
  | error e =>
    intro h
    obtain rfl := Except.error.inj h
    exact hx rfl

theorem bind {f : α → Except LoadError β} (hx : Answers x) (hf : ∀ a, Answers (f a)) :
    Answers (x >>= f) := by
  intro h
  rcases bind_eq_error h with h | ⟨a, -, h⟩
  · exact hx h
  · exact hf a h

end Answers

/-- A value of another kind is named, unless it is not well formed. -/
theorem answers_mismatch {α : Type} (wanted : Wanted) (cs : List Char) :
    Answers (.error (mismatch wanted cs) : Except LoadError α) := by
  unfold mismatch
  dsimp only
  split
  · exact .json _
  · repeat' split
    all_goals first
      | exact .wrongType _ _
      | exact .json _

theorem answers_readString (wanted : Wanted) (cs : List Char) : Answers (readString wanted cs) := by
  unfold readString
  split
  · exact (Answers.lift _).map _
  · exact answers_mismatch _ _

theorem answers_readSize (cs : List Char) : Answers (readSize cs) := by
  unfold readSize
  split
  · exact .json _
  split
  · split
    · exact .json _
    split
    · exact .json _
    · exact .ok _
    · exact .wrongValue _ _
    · exact .wrongType _ _
  · exact answers_mismatch _ _

theorem answers_colon (cs : List Char) : Answers (colon cs) := by
  unfold colon
  split
  · exact .json _
  split
  · exact .ok _
  · exact .json _

theorem answers_nextKey (first : Bool) (cs : List Char) : Answers (nextKey first cs) := by
  unfold nextKey
  split
  · exact .json _
  split
  · exact .ok _
  split
  · split
    · exact .ok _
    · exact .json _
  split
  · split
    · exact .json _
    split
    · exact .ok _
    · exact .json _
  · exact .json _

theorem answers_readTagMembers (fuel : Nat) (first : Bool) (cs : List Char) :
    Answers (readTagMembers fuel first cs) := by
  induction fuel generalizing first cs with
  | zero => exact .json _
  | succ fuel ih =>
    rw [readTagMembers]
    refine (answers_nextKey first cs).bind ?_
    rintro (quoted | rest)
    · refine (Answers.lift _).bind fun p => (answers_colon _).bind fun rest => ?_
      exact (answers_readString _ _).bind fun p => (ih _ _).bind fun p => .ok _
    · exact .ok _

theorem answers_readTags (cs : List Char) : Answers (readTags cs) := by
  unfold readTags
  split
  · exact (answers_readTagMembers _ _ _).map _
  · exact answers_mismatch _ _

theorem readDuration_eq_carry_iff : readDuration cs = .error .durationCarry ↔
    ∃ s rest, readString .duration cs = .ok (s, rest) ∧ Duration.read s = .error .carry := by
  constructor
  · intro h
    unfold readDuration at h
    split at h
    · rename_i e hstring
      obtain rfl := Except.error.inj h
      exact absurd hstring (answers_readString _ _)
    · rename_i s rest hstring
      split at h
      · cases h
      · cases h
      · rename_i hcarry
        exact ⟨s, rest, hstring, hcarry⟩
  · rintro ⟨s, rest, hstring, hcarry⟩
    rw [readDuration, hstring]
    simp only [hcarry]

theorem isDuration_of_refuses {m : Member} {value : List Char}
    (h : Refuses m value .durationCarry) :
    (m = .frequency ∨ m = .timeout) ∧ readDuration value = .error .durationCarry := by
  have hmap : ∀ {α β : Type} {x : Except LoadError α} {f : α → β},
      x.map f = .error .durationCarry → x = .error .durationCarry := by
    intro α β x f hx
    cases x with
    | error e => exact congrArg _ (Except.error.inj hx)
    | ok a => cases hx
  have h := h {}
  cases m with
  | frequency => exact ⟨.inl rfl, hmap h⟩
  | timeout => exact ⟨.inr rfl, hmap h⟩
  | uri => exact absurd (hmap h) (answers_readString _ _)
  | batchSize => exact absurd (hmap h) (answers_readSize _)
  | commonTags => exact absurd (hmap h) (answers_readTags _)

/-- Loading comes to a duration with this text. -/
def ReachesDuration (text s : String) : Prop :=
  ∃ m value rest, (m = .frequency ∨ m = .timeout) ∧ Reaches text m value ∧
    readString .duration value = .ok (s, rest)

/-- A duration that a loading comes to stands in the text as a string. -/
theorem ReachesDuration.stands {text s : String} (h : ReachesDuration text s) :
    ∃ after rest, '"' :: after <:+ text.toList ∧ string after = .ok (s.toList, rest) := by
  obtain ⟨m, value, rest, -, hreach, hstring⟩ := h
  obtain ⟨after, hafter, hstring⟩ := stands_of_readString hstring
  exact ⟨after, rest, hafter.trans hreach.suffix, hstring⟩

theorem readMembers_eq_carry {fuel : Nat} {first : Bool} {d : Draft}
    (h : readMembers fuel first d cs = .error .durationCarry) :
    ∃ m value, MembersReach first d cs m value ∧ Refuses m value .durationCarry := by
  induction fuel generalizing first d cs with
  | zero => cases h
  | succ fuel ih =>
    rw [readMembers] at h
    rcases bind_eq_error h with h | ⟨next, hkey, h⟩
    · exact absurd h (answers_nextKey first cs)
    rcases next with quoted | rest
    · rcases bind_eq_error h with h | ⟨⟨ds, rest⟩, hstring, h⟩
      · exact absurd h (Answers.lift _)
      have hstring := eq_ok_of_lift_eq_ok hstring
      have hnext : ∀ {value}, colon rest = .ok value →
          NextMember first cs (String.ofList ds) value :=
        fun hcolon => ⟨quoted, ds, rest, hkey, hstring, rfl, hcolon⟩
      cases hmember : Member.ofKey? (String.ofList ds) with
      | none =>
        simp only [hmember] at h
        rcases bind_eq_error h with h | ⟨value, hcolon, h⟩
        · exact absurd h (answers_colon rest)
        rcases bind_eq_error h with h | ⟨rest', hskip, h⟩
        · exact absurd h (Answers.lift _)
        obtain ⟨m, value', hreach, hrefuses⟩ := ih h
        exact ⟨m, value', .unknown (hnext hcolon) hmember (eq_ok_of_lift_eq_ok hskip) hreach,
          hrefuses⟩
      | some m =>
        simp only [hmember] at h
        split at h
        · cases h
        rename_i hnew
        have hnew := Bool.eq_false_of_not_eq_true hnew
        rcases bind_eq_error h with h | ⟨value, hcolon, h⟩
        · exact absurd h (answers_colon rest)
        have hnext := key_of_ofKey? hmember ▸ hnext hcolon
        rcases bind_eq_error h with h | ⟨⟨d', rest'⟩, hread, h⟩
        · exact ⟨m, value, .here hnext hnew, refuses_of_readMember h⟩
        obtain ⟨m', value', hreach, hrefuses⟩ := ih h
        exact ⟨m', value', .known hnext hnew hread hreach, hrefuses⟩
    · cases h

theorem readItems_eq_carry {first : Bool} {d : Draft} {ms : List Member}
    (h : readItems first d ms cs = .error .durationCarry) :
    ∃ m value, ItemsReach first d ms cs m value ∧ Refuses m value .durationCarry := by
  -- The next item is read, and what is wrong is wrong with it or comes after it.
  have hitem : ∀ {first : Bool} {d : Draft} {cs value : List Char} {m : Member} {ms : List Member},
      (∀ {d : Draft} {cs : List Char}, readItems false d ms cs = .error .durationCarry →
        ∃ m value, ItemsReach false d ms cs m value ∧ Refuses m value .durationCarry) →
      NextItem first cs value → readItems first d (m :: ms) cs = .error .durationCarry →
      ∃ m' value', ItemsReach first d (m :: ms) cs m' value' ∧ Refuses m' value' .durationCarry := by
    intro first d cs value m ms ih hnext h
    rw [readItems_of_nextItem hnext] at h
    rcases bind_eq_error h with h | ⟨⟨d', rest⟩, hread, h⟩
    · exact ⟨m, value, .here hnext, refuses_of_readMember h⟩
    · obtain ⟨m', value', hreach, hrefuses⟩ := ih h
      exact ⟨m', value', .next hnext hread hreach, hrefuses⟩
  induction ms generalizing first d cs with
  | nil =>
    rw [readItems.eq_def] at h
    cases hspace : skipSpace cs with
    | nil => simp [hspace] at h
    | cons c rest => by_cases hc : c = ']' <;> simp [hspace, hc] at h
  | cons m ms ih =>
    cases hspace : skipSpace cs with
    | nil =>
      rw [readItems.eq_def] at h
      simp [hspace] at h
    | cons c rest =>
      by_cases hc : c = ']'
      · rw [readItems.eq_def] at h
        simp [hspace, hc] at h
      cases first with
      | true => exact hitem ih ⟨c, rest, rfl, hc, hspace⟩ h
      | false =>
        by_cases hcomma : c = ','
        · subst hcomma
          cases hspace' : skipSpace rest with
          | nil =>
            rw [readItems.eq_def] at h
            simp [hspace, hspace'] at h
          | cons e rest' =>
            by_cases he : e = ']'
            · rw [readItems.eq_def] at h
              simp [hspace, hspace', he] at h
            · exact hitem ih ⟨e, rest', rfl, he, rest, hspace, hspace'⟩ h
        · rw [readItems.eq_def] at h
          simp [hspace, hc, hcomma] at h

theorem reachesDuration_of_read_eq_carry {text : String}
    (h : Config.read text = .error .durationCarry) :
    ∃ s, ReachesDuration text s ∧ Duration.read s = .error .carry := by
  have hduration : ∀ {m : Member} {value : List Char}, Reaches text m value →
      Refuses m value .durationCarry →
      ∃ s, ReachesDuration text s ∧ Duration.read s = .error .carry := by
    intro m value hreach hrefuses
    obtain ⟨hm, hcarry⟩ := isDuration_of_refuses hrefuses
    obtain ⟨s, rest, hstring, hread⟩ := readDuration_eq_carry_iff.mp hcarry
    exact ⟨s, ⟨m, value, rest, hm, hreach, hstring⟩, hread⟩
  have hend : ∀ p : Draft × List Char, Answers (if skipSpace p.2 = [] then .ok p.1.toConfig
      else .error (.json .malformed) : Except LoadError Config) := by
    intro p
    split
    · exact .ok _
    · exact .json _
  rw [Config.read] at h
  split at h
  · rename_i cs hspace
    rcases bind_eq_error h with h | ⟨p, -, h⟩
    · obtain ⟨m, value, hreach, hrefuses⟩ := readMembers_eq_carry h
      exact hduration (.inl ⟨cs, hspace, hreach⟩) hrefuses
    · exact absurd h (hend p)
  · rename_i cs hspace
    rcases bind_eq_error h with h | ⟨p, -, h⟩
    · obtain ⟨m, value, hreach, hrefuses⟩ := readItems_eq_carry h
      exact hduration (.inr ⟨cs, hspace, hreach⟩) hrefuses
    · exact absurd h (hend p)
  · rcases bind_eq_error h with h | ⟨p, h, -⟩
    · exact absurd h (answers_mismatch _ _)
    · cases h

/-- A duration that a loading comes to and cannot read decides its answer. -/
theorem read_of_reachesDuration {text s : String} {f : Duration.Fault}
    (h : ReachesDuration text s) (hf : Duration.read s = .error f) :
    Config.read text = .error (match f with
      | .invalid => .wrongValue (.text s) .duration
      | .carry => .durationCarry) := by
  obtain ⟨m, value, rest, hm, hreach, hstring⟩ := h
  refine read_of_reaches hreach fun d => ?_
  rcases hm with rfl | rfl <;> cases f <;>
    simp [Draft.readMember, readDuration, hstring, hf, Except.map]

/-- **Loading breaks off just when it comes to a duration that makes the last second full.**  Any
other duration that does not fit is an error like every other one. -/
theorem load_breaks_off_iff (text : String) :
    (Config.read text = .error .durationCarry ↔
      ∃ s, ReachesDuration text s ∧ Duration.FillsLastSecond s) ∧
    ∀ s, ReachesDuration text s → ¬ Duration.FillsLastSecond s →
      wordCount * 1000000000 ≤ Duration.total (Duration.increments s).1 →
      Config.read text = .error (.wrongValue (.text s) .duration) := by
  refine ⟨⟨fun h => ?_, fun ⟨s, hreach, hlast⟩ => ?_⟩, fun s hreach hlast hlong => ?_⟩
  · obtain ⟨s, hreach, hcarry⟩ := reachesDuration_of_read_eq_carry h
    exact ⟨s, hreach, (Duration.read_eq_carry_iff s).mp hcarry⟩
  · exact read_of_reachesDuration hreach ((Duration.read_eq_carry_iff s).mpr hlast)
  · have hcarry := mt (Duration.read_eq_carry_iff s).mp hlast
    cases hread : Duration.read s with
    | ok d => exact absurd (Duration.total_lt_of_read hread) (Nat.not_lt.mpr hlong)
    | error f =>
      cases f with
      | invalid => exact read_of_reachesDuration hreach hread
      | carry => exact absurd hread hcarry

/-- The only member is the frequency, and loading comes to it. -/
theorem reachesDuration_frequency {text s : String} {value rest : List Char}
    (htext : text.toList = '\x7b' :: '"' :: ("frequency".toList ++ '"' :: ':' :: '"' :: value))
    (hvalue : string value = .ok (s.toList, rest)) : ReachesDuration text s := by
  have hkey : string ("frequency".toList ++ '"' :: ':' :: '"' :: value) =
      .ok ("frequency".toList, ':' :: '"' :: value) := by
    simp [string, Except.map]
  have hnext : NextMember true ('"' :: ("frequency".toList ++ '"' :: ':' :: '"' :: value))
      Member.frequency.key ('"' :: value) :=
    ⟨_, _, _, rfl, hkey, String.ofList_toList, rfl⟩
  refine ⟨.frequency, '"' :: value, rest, .inl rfl, .inl ⟨_, ?_, .here hnext rfl⟩, ?_⟩
  · rw [htext]
    rfl
  · have hspace : skipSpace ('"' :: value) = '"' :: value := rfl
    simp [readString, hspace, hvalue, lift, Except.map]

/-- A second more than the last one is refused. -/
theorem second_after_last_refused :
    Config.read "\x7b\"frequency\":\"18446744073709551615s 1s\"\x7d" =
      .error (.wrongValue (.text "18446744073709551615s 1s") .duration) := by
  have hvalue : string "18446744073709551615s 1s\"\x7d".toList =
      .ok ("18446744073709551615s 1s".toList, ['\x7d']) := by
    simp [string, Except.map]
  have hreach : ReachesDuration "\x7b\"frequency\":\"18446744073709551615s 1s\"\x7d"
      "18446744073709551615s 1s" :=
    reachesDuration_frequency rfl hvalue
  have hread : Duration.read "18446744073709551615s 1s" = .error .invalid := by decide
  refine (load_breaks_off_iff _).2 _ hreach ?_ (by decide)
  rw [← Duration.read_eq_carry_iff, hread]
  simp

/-- A thousand million nanoseconds after the last second are not refused, and loading breaks off. -/
theorem full_second_after_last_breaks_off :
    Config.read "\x7b\"frequency\":\"18446744073709551615s 1000000000ns\"\x7d" =
      .error .durationCarry := by
  have hvalue : string "18446744073709551615s 1000000000ns\"\x7d".toList =
      .ok ("18446744073709551615s 1000000000ns".toList, ['\x7d']) := by
    simp [string, Except.map]
  have hreach : ReachesDuration "\x7b\"frequency\":\"18446744073709551615s 1000000000ns\"\x7d"
      "18446744073709551615s 1000000000ns" :=
    reachesDuration_frequency rfl hvalue
  exact read_of_reachesDuration hreach (f := .carry) (by decide)

end DimensionalMetrics.Config
