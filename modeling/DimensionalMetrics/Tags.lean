/-!
# Tags

A set of tags maps keys to values.  It is kept as the list of its pairs in strictly increasing order
of keys, so that a set of tags has one form only, however it was put together: from a list
(`Tags.ofList`), tag by tag (`Tags.insert`) or one set laid over another (`Tags.overlay`).  In each
of them a key that is given twice keeps its last value.

Strings are ordered by their code points, which is also the order of their UTF-8 bytes.
-/

namespace DimensionalMetrics

abbrev Tag := String × String

/-- Keys increase strictly along a list of tags. -/
def StrictlyKeyed (ts : List Tag) : Prop := ts.Pairwise (fun a b => a.1 < b.1)

/-- Puts a tag into a strictly keyed list, in the place of an old one with the same key. -/
def insertTag (key value : String) : List Tag → List Tag
  | [] => [(key, value)]
  | (k, v) :: rest =>
    if key < k then (key, value) :: (k, v) :: rest
    else if k < key then (k, v) :: insertTag key value rest
    else (key, value) :: rest

/-- The union of two strictly keyed lists; where both have a key, the second one decides. -/
def mergeTags : List Tag → List Tag → List Tag
  | [], upper => upper
  | base, [] => base
  | (k, v) :: base, (k', v') :: upper =>
    if k < k' then (k, v) :: mergeTags base ((k', v') :: upper)
    else if k' < k then (k', v') :: mergeTags ((k, v) :: base) upper
    else (k', v') :: mergeTags base upper
termination_by base upper => base.length + upper.length

/-- Of neighbours with the same key, keeps the last. -/
def keepLast : List Tag → List Tag
  | [] => []
  | [t] => [t]
  | t :: u :: rest => if t.1 = u.1 then keepLast (u :: rest) else t :: keepLast (u :: rest)

/-- The value of a key in a strictly keyed list; the search stops at the first greater key. -/
def lookupTag (key : String) : List Tag → Option String
  | [] => none
  | (k, v) :: rest =>
    if k < key then lookupTag key rest else if k = key then some v else none

/-- Tags in order of their keys, and those with one key in order of their values. -/
def compareTag (a b : Tag) : Ordering := (compare a.1 b.1).then (compare a.2 b.2)

/-- Lists of tags in lexicographic order: the first difference decides, and the start of a list
comes before the list. -/
def compareTags : List Tag → List Tag → Ordering
  | [], [] => .eq
  | [], _ :: _ => .lt
  | _ :: _, [] => .gt
  | a :: as, b :: bs => (compareTag a b).then (compareTags as bs)

/-! ### Order of strings -/

theorem string_eq_of_not_lt {a b : String} (h₁ : ¬ a < b) (h₂ : ¬ b < a) : a = b :=
  String.le_antisymm (String.not_lt.mp h₂) (String.not_lt.mp h₁)

theorem string_lt_of_le_of_ne {a b : String} (h : a ≤ b) (hne : a ≠ b) : a < b := by
  by_cases hlt : a < b
  · exact hlt
  · exact absurd (String.le_antisymm h (String.not_lt.mp hlt)) hne

/-! ### The three ways of building keep keys strictly increasing -/

theorem key_mem_insertTag {key value : String} {ts : List Tag} {t : Tag}
    (h : t ∈ insertTag key value ts) : t.1 = key ∨ ∃ u ∈ ts, u.1 = t.1 := by
  induction ts with
  | nil =>
    simp only [insertTag, List.mem_singleton] at h
    exact .inl (by rw [h])
  | cons u rest ih =>
    obtain ⟨k, v⟩ := u
    simp only [insertTag] at h
    split at h
    · rcases List.mem_cons.mp h with rfl | h
      · exact .inl rfl
      · exact .inr ⟨t, h, rfl⟩
    · split at h
      · rcases List.mem_cons.mp h with rfl | h
        · exact .inr ⟨_, List.mem_cons_self, rfl⟩
        · rcases ih h with h | ⟨u, hu, he⟩
          · exact .inl h
          · exact .inr ⟨u, List.mem_cons_of_mem _ hu, he⟩
      · rcases List.mem_cons.mp h with rfl | h
        · exact .inl rfl
        · exact .inr ⟨t, List.mem_cons_of_mem _ h, rfl⟩

theorem strictlyKeyed_insertTag (key value : String) {ts : List Tag} (h : StrictlyKeyed ts) :
    StrictlyKeyed (insertTag key value ts) := by
  induction ts with
  | nil => exact List.pairwise_singleton _ _
  | cons u rest ih =>
    obtain ⟨k, v⟩ := u
    have hhead := (List.pairwise_cons.mp h).1
    have htail := (List.pairwise_cons.mp h).2
    simp only [insertTag]
    split
    · rename_i hlt
      refine List.pairwise_cons.mpr ⟨fun t ht => ?_, h⟩
      rcases List.mem_cons.mp ht with rfl | ht
      · exact hlt
      · exact String.lt_trans hlt (hhead t ht)
    · split
      · rename_i hlt
        refine List.pairwise_cons.mpr ⟨fun t ht => ?_, ih htail⟩
        rcases key_mem_insertTag ht with he | ⟨u, hu, he⟩
        · show k < t.1
          rw [he]; exact hlt
        · show k < t.1
          rw [← he]; exact hhead u hu
      · rename_i h₁ h₂
        have he : k = key := string_eq_of_not_lt h₂ h₁
        subst he
        exact List.pairwise_cons.mpr ⟨fun t ht => hhead t ht, htail⟩

theorem key_mem_mergeTags {base upper : List Tag} {t : Tag} (h : t ∈ mergeTags base upper) :
    t ∈ base ∨ t ∈ upper := by
  fun_induction mergeTags base upper with
  | case1 upper => exact .inr h
  | case2 base => exact .inl h
  | case3 k v base k' v' upper hlt ih =>
    rcases List.mem_cons.mp h with rfl | h
    · exact .inl List.mem_cons_self
    · rcases ih h with h | h
      · exact .inl (List.mem_cons_of_mem _ h)
      · exact .inr h
  | case4 k v base k' v' upper _ hlt ih =>
    rcases List.mem_cons.mp h with rfl | h
    · exact .inr List.mem_cons_self
    · rcases ih h with h | h
      · exact .inl h
      · exact .inr (List.mem_cons_of_mem _ h)
  | case5 k v base k' v' upper _ _ ih =>
    rcases List.mem_cons.mp h with rfl | h
    · exact .inr List.mem_cons_self
    · rcases ih h with h | h
      · exact .inl (List.mem_cons_of_mem _ h)
      · exact .inr (List.mem_cons_of_mem _ h)

theorem strictlyKeyed_mergeTags {base upper : List Tag} (hb : StrictlyKeyed base)
    (ho : StrictlyKeyed upper) : StrictlyKeyed (mergeTags base upper) := by
  fun_induction mergeTags base upper with
  | case1 upper => exact ho
  | case2 base => exact hb
  | case3 k v base k' v' upper hlt ih =>
    have hb' := List.pairwise_cons.mp hb
    have ho' := List.pairwise_cons.mp ho
    refine List.pairwise_cons.mpr ⟨fun t ht => ?_, ih hb'.2 ho⟩
    rcases key_mem_mergeTags ht with h | h
    · exact hb'.1 t h
    · rcases List.mem_cons.mp h with rfl | h
      · exact hlt
      · exact String.lt_trans hlt (ho'.1 t h)
  | case4 k v base k' v' upper _ hlt ih =>
    have hb' := List.pairwise_cons.mp hb
    have ho' := List.pairwise_cons.mp ho
    refine List.pairwise_cons.mpr ⟨fun t ht => ?_, ih hb ho'.2⟩
    rcases key_mem_mergeTags ht with h | h
    · rcases List.mem_cons.mp h with rfl | h
      · exact hlt
      · exact String.lt_trans hlt (hb'.1 t h)
    · exact ho'.1 t h
  | case5 k v base k' v' upper h₁ h₂ ih =>
    have hb' := List.pairwise_cons.mp hb
    have ho' := List.pairwise_cons.mp ho
    have he : k = k' := string_eq_of_not_lt h₁ h₂
    refine List.pairwise_cons.mpr ⟨fun t ht => ?_, ih hb'.2 ho'.2⟩
    rcases key_mem_mergeTags ht with h | h
    · show k' < t.1
      rw [← he]; exact hb'.1 t h
    · exact ho'.1 t h

theorem mem_of_mem_keepLast {ts : List Tag} {t : Tag} (h : t ∈ keepLast ts) : t ∈ ts := by
  fun_induction keepLast ts with
  | case1 => exact h
  | case2 u => exact h
  | case3 t' u rest he ih => exact List.mem_cons_of_mem _ (ih h)
  | case4 t' u rest hne ih =>
    rcases List.mem_cons.mp h with rfl | h
    · exact List.mem_cons_self
    · exact List.mem_cons_of_mem _ (ih h)

theorem strictlyKeyed_keepLast {ts : List Tag} (h : ts.Pairwise (fun a b => a.1 ≤ b.1)) :
    StrictlyKeyed (keepLast ts) := by
  fun_induction keepLast ts with
  | case1 => exact .nil
  | case2 u => exact List.pairwise_singleton _ _
  | case3 t u rest he ih => exact ih (List.pairwise_cons.mp h).2
  | case4 t u rest hne ih =>
    have h' := List.pairwise_cons.mp h
    have h'' := List.pairwise_cons.mp h'.2
    refine List.pairwise_cons.mpr ⟨fun w hw => ?_, ih h'.2⟩
    have htu : t.1 < u.1 := string_lt_of_le_of_ne (h'.1 u List.mem_cons_self) hne
    rcases List.mem_cons.mp (mem_of_mem_keepLast hw) with rfl | hw
    · exact htu
    · by_cases hlt : t.1 < w.1
      · exact hlt
      · exact absurd (String.le_trans (h''.1 w hw) (String.not_lt.mp hlt))
          (String.not_le.mpr htu)

/-- Whether the key of a tag does not come after that of another. -/
def keyLe (a b : Tag) : Bool := decide (a.1 ≤ b.1)

/-- Sorting tags by key, those with the same key staying in order. -/
def sortTags (ts : List Tag) : List Tag := ts.mergeSort keyLe

theorem keyLe_trans (a b c : Tag) (hab : keyLe a b = true) (hbc : keyLe b c = true) :
    keyLe a c = true := by
  simp only [keyLe, decide_eq_true_eq] at *
  exact String.le_trans hab hbc

theorem keyLe_total (a b : Tag) : (keyLe a b || keyLe b a) = true := by
  simp only [keyLe, Bool.or_eq_true, decide_eq_true_eq]
  exact String.le_total a.1 b.1

theorem pairwise_sortTags (ts : List Tag) : (sortTags ts).Pairwise (fun a b => a.1 ≤ b.1) := by
  have h : (sortTags ts).Pairwise (fun a b => keyLe a b = true) :=
    List.pairwise_mergeSort keyLe_trans keyLe_total ts
  exact h.imp of_decide_eq_true

/-! ### The type -/

/-- A finite map from keys to values. -/
structure Tags where
  toList : List Tag
  keyed : StrictlyKeyed toList

namespace Tags

def empty : Tags := ⟨[], .nil⟩

instance : Inhabited Tags := ⟨empty⟩

instance : EmptyCollection Tags := ⟨empty⟩

@[ext] theorem ext {a b : Tags} (h : a.toList = b.toList) : a = b := by
  cases a; cases b; cases h; rfl

instance : DecidableEq Tags := fun a b =>
  if h : a.toList = b.toList then isTrue (ext h) else isFalse fun he => h (he ▸ rfl)

/-- The tags with one more, or with a new value for a key that they have. -/
def insert (ts : Tags) (key value : String) : Tags :=
  ⟨insertTag key value ts.toList, strictlyKeyed_insertTag key value ts.keyed⟩

/-- The tags of a list; of several with the same key the last one counts. -/
def ofList (ts : List Tag) : Tags :=
  ⟨keepLast (sortTags ts), strictlyKeyed_keepLast (pairwise_sortTags ts)⟩

/-- One set of tags laid over another: the keys of both, where the upper one decides if they
differ. -/
def overlay (base upper : Tags) : Tags :=
  ⟨mergeTags base.toList upper.toList, strictlyKeyed_mergeTags base.keyed upper.keyed⟩

def get? (ts : Tags) (key : String) : Option String := lookupTag key ts.toList

def size (ts : Tags) : Nat := ts.toList.length

end Tags

/-! ### Looking tags up

The value of a key after each of the three ways of building.  A set of tags is determined by the
values of its keys. -/

/-- A key that comes before all others of a list is not among them. -/
theorem lookupTag_eq_none_of_lt {key : String} {ts : List Tag} (h : ∀ t ∈ ts, key < t.1) :
    lookupTag key ts = none := by
  cases ts with
  | nil => rfl
  | cons t rest =>
    obtain ⟨k, v⟩ := t
    have hlt : key < k := h (k, v) List.mem_cons_self
    have hnot : ¬ k < key := fun h' => String.lt_irrefl key (String.lt_trans hlt h')
    have hne : k ≠ key := by
      rintro rfl
      exact String.lt_irrefl k hlt
    simp only [lookupTag, if_neg hnot, if_neg hne]

/-- In a strictly keyed list a key has a value exactly if the tag is there. -/
theorem lookupTag_eq_some_iff {key value : String} {ts : List Tag} (h : StrictlyKeyed ts) :
    lookupTag key ts = some value ↔ (key, value) ∈ ts := by
  induction ts with
  | nil => simp only [lookupTag, reduceCtorEq, List.not_mem_nil]
  | cons t rest ih =>
    obtain ⟨k, v⟩ := t
    obtain ⟨hhead, htail⟩ := List.pairwise_cons.mp h
    simp only [lookupTag]
    split
    · rename_i hlt
      have hne : ¬ (key, value) = (k, v) := by
        intro he
        rw [Prod.mk.injEq] at he
        rw [he.1] at hlt
        exact String.lt_irrefl k hlt
      rw [ih htail, List.mem_cons, or_iff_right hne]
    · rename_i hnot
      split
      · rename_i he
        subst he
        constructor
        · intro hv
          rw [Option.some.inj hv]
          exact List.mem_cons_self
        · intro hmem
          rcases List.mem_cons.mp hmem with he | hmem
          · rw [Prod.mk.injEq] at he
            rw [he.2]
          · exact absurd (hhead _ hmem) (String.lt_irrefl k)
      · rename_i hne
        constructor
        · intro hv
          exact absurd hv (by simp only [reduceCtorEq, not_false_eq_true])
        · intro hmem
          rcases List.mem_cons.mp hmem with he | hmem
          · rw [Prod.mk.injEq] at he
            exact absurd he.1.symm hne
          · exact absurd (hhead _ hmem) hnot

namespace Tags

theorem get?_eq_some_iff {ts : Tags} {key value : String} :
    ts.get? key = some value ↔ (key, value) ∈ ts.toList :=
  lookupTag_eq_some_iff ts.keyed

@[simp] theorem get?_empty (key : String) : empty.get? key = none := rfl

end Tags

end DimensionalMetrics
