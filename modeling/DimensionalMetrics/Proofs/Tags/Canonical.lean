import DimensionalMetrics.Proofs.Tags.Lookup
import DimensionalMetrics.Proofs.Text.Utf8
import DimensionalMetrics.Search

/-!
# One form for each identity

Tags are kept in the order of their keys, so a key can be found, and its place can be found where it
is missing, by halving the list.  The search finds what a walk through the list finds, and a tag put
in where it ends comes to the same place.  Every way to put an identity together leads to the same
form, in which each key has the value that was given last.
-/

namespace DimensionalMetrics

/-! ### Halving -/

/-- Where the search for a key ends: at the first tag whose key does not come before it. -/
def placeOfKey (key : String) (ts : List Tag) : Nat :=
  partitionPoint (fun i => decide ((ts.getD i ("", "")).1 < key)) 0 ts.length

/-- The value of a key that is searched by halving. -/
def searchTag (key : String) (ts : List Tag) : Option String :=
  match ts[placeOfKey key ts]? with
  | some t => if t.1 = key then some t.2 else none
  | none => none

/-- Puts a tag where the search for its key ends, in place of an old one or between the others. -/
def placeTag (key value : String) (ts : List Tag) : List Tag :=
  if (ts[placeOfKey key ts]?).map Prod.fst = some key then ts.set (placeOfKey key ts) (key, value)
  else ts.insertIdx (placeOfKey key ts) (key, value)

variable {key : String} {low high ts : List Tag}

/-- The search ends between the keys that come before and those that do not. -/
theorem placeOfKey_append (hlow : ∀ t ∈ low, t.1 < key) (hhigh : ∀ t ∈ high, ¬ t.1 < key) :
    placeOfKey key (low ++ high) = low.length := by
  have hlength : low.length ≤ (low ++ high).length := by
    rw [List.length_append]
    omega
  refine partitionPoint_eq (Nat.zero_le _) hlength ?_
  intro i _ hi
  rw [decide_eq_true_iff, List.getD_eq_getElem?_getD, List.getElem?_eq_getElem hi, Option.getD_some]
  constructor
  · intro hlt
    by_contra hge
    rw [List.getElem_append_right (Nat.le_of_not_lt hge)] at hlt
    exact hhigh _ (List.getElem_mem _) hlt
  · intro hlt
    rw [List.getElem_append_left hlt]
    exact hlow _ (List.getElem_mem _)

/-- Keys that come before a key come before all others. -/
theorem exists_append_of_strictlyKeyed (h : StrictlyKeyed ts) (key : String) :
    ∃ low high, ts = low ++ high ∧ (∀ t ∈ low, t.1 < key) ∧ ∀ t ∈ high, ¬ t.1 < key := by
  induction ts with
  | nil => exact ⟨[], [], rfl, List.forall_mem_nil _, List.forall_mem_nil _⟩
  | cons t rest ih =>
    obtain ⟨hhead, htail⟩ := List.pairwise_cons.mp h
    by_cases hlt : t.1 < key
    · obtain ⟨low, high, rfl, hlow, hhigh⟩ := ih htail
      exact ⟨t :: low, high, rfl, List.forall_mem_cons.mpr ⟨hlt, hlow⟩, hhigh⟩
    · refine ⟨[], t :: rest, rfl, List.forall_mem_nil _, List.forall_mem_cons.mpr ⟨hlt, ?_⟩⟩
      intro u hu hukey
      exact hlt (String.lt_trans (hhead u hu) hukey)

theorem lookupTag_append (hlow : ∀ t ∈ low, t.1 < key) (high : List Tag) :
    lookupTag key (low ++ high) = lookupTag key high := by
  induction low with
  | nil => rfl
  | cons t low ih =>
    obtain ⟨hhead, htail⟩ := List.forall_mem_cons.mp hlow
    rw [List.cons_append, lookupTag_cons_of_lt _ _ hhead, ih htail]

theorem insertTag_append (hlow : ∀ t ∈ low, t.1 < key) (value : String) (high : List Tag) :
    insertTag key value (low ++ high) = low ++ insertTag key value high := by
  induction low with
  | nil => rfl
  | cons t low ih =>
    obtain ⟨hhead, htail⟩ := List.forall_mem_cons.mp hlow
    have hnot : ¬ key < t.1 := fun h => String.lt_irrefl key (String.lt_trans h hhead)
    rw [List.cons_append, insertTag, if_neg hnot, if_pos hhead, ih htail, List.cons_append]

/-- **Halving finds what a walk finds.** -/
theorem searchTag_eq_lookupTag (h : StrictlyKeyed ts) (key : String) :
    searchTag key ts = lookupTag key ts := by
  obtain ⟨low, high, rfl, hlow, hhigh⟩ := exists_append_of_strictlyKeyed h key
  rw [lookupTag_append hlow, searchTag, placeOfKey_append hlow hhigh,
    List.getElem?_append_right (Nat.le_refl _), Nat.sub_self]
  cases high with
  | nil => rfl
  | cons t high =>
    have hnot : ¬ t.1 < key := hhigh t List.mem_cons_self
    rw [lookupTag, if_neg hnot]
    rfl

theorem insertIdx_length_append (low high : List Tag) (t : Tag) :
    (low ++ high).insertIdx low.length t = low ++ t :: high := by
  induction low with
  | nil => rfl
  | cons u low ih =>
    rw [List.cons_append, List.length_cons, List.insertIdx_succ_cons, ih, List.cons_append]

/-- **A tag is put where the search for its key ends.** -/
theorem placeTag_eq_insertTag (h : StrictlyKeyed ts) (key value : String) :
    placeTag key value ts = insertTag key value ts := by
  obtain ⟨low, high, rfl, hlow, hhigh⟩ := exists_append_of_strictlyKeyed h key
  rw [insertTag_append hlow, placeTag, placeOfKey_append hlow hhigh,
    List.getElem?_append_right (Nat.le_refl _), Nat.sub_self]
  cases high with
  | nil =>
    rw [if_neg (by simp), List.append_nil, List.insertIdx_length_self]
    rfl
  | cons t high =>
    have hnot : ¬ t.1 < key := hhigh t List.mem_cons_self
    by_cases hkey : t.1 = key
    · have hself : ¬ key < t.1 := by
        rw [hkey]
        exact String.lt_irrefl key
      rw [if_pos (by simp [hkey]), insertTag, if_neg hself, if_neg hnot]
      simp
    · have hlt : key < t.1 := string_lt_of_le_of_ne (String.not_lt.mp hnot) (Ne.symm hkey)
      rw [if_neg (by simp [hkey]), insertTag, if_pos hlt,
        insertIdx_length_append]

/-! ### What was given last -/

/-- The value that was given last for a key. -/
def lastGiven (key : String) (ts : List Tag) : Option String :=
  (ts.filter (·.1 = key)).getLast?.map Prod.snd

namespace Spelling

def name : Spelling → String
  | make name _ => name
  | withTag base _ _ => base.name
  | withTags base _ => base.name

/-- All tags that were given, the latest last. -/
def given : Spelling → List Tag
  | make _ tags => tags
  | withTag base key value => base.given ++ [(key, value)]
  | withTags base tags => base.given ++ tags

theorem name_key (s : Spelling) : s.key.name = s.name := by
  induction s with
  | make name tags => rfl
  | withTag base key value ih => exact ih
  | withTags base tags ih => exact ih

theorem tags_key (s : Spelling) : s.key.tags = .ofList s.given := by
  induction s with
  | make name tags => rfl
  | withTag base key value ih =>
    rw [given, TagMap.ofList, TagMap.setAll, List.foldl_append, Spelling.key, ih]
    rfl
  | withTags base tags ih =>
    rw [given, TagMap.ofList, TagMap.setAll, List.foldl_append, Spelling.key, ih]
    rfl

theorem tag?_id_eq_lastGiven (s : Spelling) (key : String) :
    s.id.tag? key = lastGiven key s.given := by
  rw [tag?_id, tags_key, TagMap.lookup_ofList, lastGiven]

end Spelling

namespace Id

/-- Every identity has a spelling. -/
theorem id_spelling (id : Id) : (Spelling.make id.name id.tags.toList).id = id := by
  apply Id.ext
  · rfl
  · exact Tags.ofList_toList id.tags

theorem key_withTag (id : Id) (key value : String) :
    (id.withTag key value).key = { id.key with tags := id.key.tags.insert key value } := by
  have h := Spelling.key_id (.withTag (.make id.name id.tags.toList) key value)
  rwa [Spelling.id, id_spelling] at h

theorem key_withTags (id : Id) (tags : List Tag) :
    (id.withTags tags).key = { id.key with tags := id.key.tags.setAll tags } := by
  have h := Spelling.key_id (.withTags (.make id.name id.tags.toList) tags)
  rwa [Spelling.id, id_spelling] at h

/-- To set tags one by one is to set them at once. -/
theorem foldl_withTag (id : Id) (tags : List Tag) :
    tags.foldl (fun id t => id.withTag t.1 t.2) id = id.withTags tags := by
  apply key_inj.mp
  rw [key_withTags]
  induction tags generalizing id with
  | nil => rfl
  | cons t tags ih =>
    rw [List.foldl_cons, ih, key_withTag]
    rfl

theorem withTags_make_nil (name : String) (tags : List Tag) :
    (make name []).withTags tags = make name tags := by
  apply key_inj.mp
  have hmake : (make name tags).key = ⟨name, .ofList tags⟩ := Spelling.key_id (.make name tags)
  have hempty : (make name []).key = ⟨name, .ofList []⟩ := Spelling.key_id (.make name [])
  rw [key_withTags, hempty, hmake]
  rfl

theorem beq_iff {a b : Id} : (a == b) = true ↔ a.name = b.name ∧ ∀ key, a.tag? key = b.tag? key := by
  rw [beq_iff_eq]
  constructor
  · rintro rfl
    exact ⟨rfl, fun _ => rfl⟩
  · rintro ⟨hname, htags⟩
    exact ext_tag? hname htags

end Id

/-- **An identity has one form.**  However it was put together, its keys increase strictly in the
order of their bytes, and a search by halving finds for each key the value that was given last, or
nothing.  To give tags at once is to set them one by one, each where the search for its key ends.
Identities are the same, which their hashes may tell early, just if they have one name and agree on
all keys; then nothing that can be seen of them differs. -/
theorem identity_has_one_form :
    (∀ s : Spelling,
      s.id.tags.toList.Pairwise (fun t u => utf8 t.1 < utf8 u.1) ∧
      (∀ key, s.id.tag? key = searchTag key s.id.tags.toList ∧
        s.id.tag? key = lastGiven key s.given) ∧
      ∀ s' : Spelling, (s.id == s'.id) = true ↔
        s.name = s'.name ∧ ∀ key, lastGiven key s.given = lastGiven key s'.given) ∧
    (∀ (id : Id) (key value : String),
      (id.withTag key value).tags.toList = placeTag key value id.tags.toList) ∧
    (∀ (name : String) (tags : List Tag),
      Id.make name tags = tags.foldl (fun id t => id.withTag t.1 t.2) (Id.make name [])) ∧
    (∀ (id : Id) (tags : List Tag),
      id.withTags tags = tags.foldl (fun id t => id.withTag t.1 t.2) id) ∧
    ∀ a b : Id,
      ((a == b) = true ↔ a.name = b.name ∧ ∀ key, a.tag? key = b.tag? key) ∧
      ((a == b) = true → a.hash = b.hash ∧ a.tags.toList = b.tags.toList ∧ a.text = b.text ∧
        a.describe = b.describe) := by
  refine ⟨?_, ?_, ?_, ?_, ?_⟩
  · intro s
    refine ⟨s.id.tags.keyed.imp utf8_lt_utf8_iff.mpr, ?_, ?_⟩
    · intro key
      exact ⟨(searchTag_eq_lookupTag s.id.tags.keyed key).symm, s.tag?_id_eq_lastGiven key⟩
    · intro s'
      have hname : ∀ s : Spelling, s.id.name = s.name := fun s => s.name_id_eq.trans s.name_key
      simp only [Id.beq_iff, hname, Spelling.tag?_id_eq_lastGiven]
  · intro id key value
    exact (placeTag_eq_insertTag id.tags.keyed key value).symm
  · intro name tags
    rw [Id.foldl_withTag, Id.withTags_make_nil]
  · intro id tags
    rw [Id.foldl_withTag]
  · intro a b
    refine ⟨Id.beq_iff, ?_⟩
    intro h
    obtain rfl : a = b := eq_of_beq h
    exact ⟨rfl, rfl, rfl, rfl⟩

/-- A key that is given twice, in another order of the tags, leads to the same identity. -/
theorem repeated_tags_have_one_form :
    let a : Spelling := .make "requests" [("status", "ok"), ("method", "Get"), ("status", "err")]
    let b : Spelling := .withTag (.withTags (.make "requests" []) [("status", "err")]) "method" "Get"
    (a.id == b.id) = true ∧ a.id.hash = b.id.hash ∧ a.id.text = b.id.text ∧
      searchTag "status" a.id.tags.toList = some "err" := by
  intro a b
  obtain ⟨hspelled, -, -, -, hsame⟩ := identity_has_one_form
  obtain ⟨-, htags, hequal⟩ := hspelled a
  have hgiven : ∀ key, lastGiven key a.given = lastGiven key b.given := by
    intro key
    by_cases hstatus : "status" = key
    · subst hstatus
      decide
    · by_cases hmethod : "method" = key
      · subst hmethod
        decide
      · simp [lastGiven, a, b, Spelling.given, hstatus, hmethod]
  have heq : (a.id == b.id) = true := (hequal b).mpr ⟨rfl, hgiven⟩
  obtain ⟨hhash, -, htext, -⟩ := (hsame a.id b.id).2 heq
  refine ⟨heq, hhash, htext, ?_⟩
  rw [← (htags "status").1, (htags "status").2]
  decide

end DimensionalMetrics
