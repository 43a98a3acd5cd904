import DimensionalMetrics.Id
import Mathlib.Data.Finmap
import Mathlib.Data.List.Sort

/-!
# The value of a key

A list of tags means a finite map, in which the last value given for a key counts.  This module says
what that map is, and that every way of building tags arrives at it: from a list, by setting one
tag, and by laying one set of tags over another.  As tags are determined by the values of their
keys, two identities are the same when they have one name and agree on every key.
-/

namespace DimensionalMetrics

/-- A finite map from keys to values. -/
abbrev TagMap : Type := Finmap fun _ : String => String

namespace TagMap

/-- The map with every tag of a list set, in order. -/
def setAll (m : TagMap) (ts : List Tag) : TagMap := ts.foldl (fun m t => m.insert t.1 t.2) m

/-- The map that a list of tags means. -/
def ofList (ts : List Tag) : TagMap := setAll ∅ ts

theorem lookup_insert_eq_ite (m : TagMap) (key key' value : String) :
    (m.insert key value).lookup key' = if key' = key then some value else m.lookup key' := by
  by_cases h : key' = key
  · rw [if_pos h, h, Finmap.lookup_insert]
  · rw [if_neg h, Finmap.lookup_insert_of_ne m h]

/-- The last tag with a key decides, and the map from before where there is none. -/
theorem lookup_setAll (m : TagMap) (ts : List Tag) (key : String) :
    (m.setAll ts).lookup key =
      (((ts.filter (·.1 = key)).getLast?.map Prod.snd).or (m.lookup key)) := by
  induction ts generalizing m with
  | nil => rfl
  | cons t ts ih =>
    have hstep : m.setAll (t :: ts) = setAll (m.insert t.1 t.2) ts := rfl
    rw [hstep, ih, lookup_insert_eq_ite]
    -- The first tag counts only where no later one has its key.
    by_cases hkey : key = t.1
    · have hfilter : (t :: ts).filter (·.1 = key) = t :: ts.filter (·.1 = key) :=
        List.filter_cons_of_pos (by simp [hkey])
      rw [if_pos hkey, hfilter]
      cases hlast : (ts.filter (·.1 = key)).getLast? with
      | none =>
        rw [List.getLast?_eq_none_iff.mp hlast]
        rfl
      | some u => simp [List.getLast?_cons, hlast]
    · have hfilter : (t :: ts).filter (·.1 = key) = ts.filter (·.1 = key) :=
        List.filter_cons_of_neg (by simpa using Ne.symm hkey)
      rw [if_neg hkey, hfilter]

theorem lookup_ofList (ts : List Tag) (key : String) :
    (ofList ts).lookup key = (ts.filter (·.1 = key)).getLast?.map Prod.snd := by
  rw [ofList, lookup_setAll, Finmap.lookup_empty, Option.or_none]

end TagMap

/-! ### Tags from a list -/

/-- Tags with one key stay in order when a list is sorted. -/
theorem filter_sortTags (ts : List Tag) (key : String) :
    (sortTags ts).filter (·.1 = key) = ts.filter (·.1 = key) := by
  have hpairwise : (ts.filter (·.1 = key)).Pairwise (fun a b => keyLe a b = true) := by
    apply List.pairwise_of_forall_mem_list
    intro a ha b hb
    have hakey : a.1 = key := by simpa using (List.mem_filter.mp ha).2
    have hbkey : b.1 = key := by simpa using (List.mem_filter.mp hb).2
    simp only [keyLe, hakey, hbkey, decide_eq_true_eq, String.le_refl]
  have hsublist : (ts.filter (·.1 = key)).Sublist (sortTags ts) :=
    List.sublist_mergeSort keyLe_trans keyLe_total hpairwise List.filter_sublist
  have hkept : (ts.filter (·.1 = key)).Sublist ((sortTags ts).filter (·.1 = key)) := by
    have hfilter := hsublist.filter (fun t => decide (t.1 = key))
    rwa [List.filter_filter, show (fun t : Tag => decide (t.1 = key) && decide (t.1 = key)) =
      fun t => decide (t.1 = key) from funext fun t => Bool.and_self _] at hfilter
  have hperm : (sortTags ts).Perm ts := List.mergeSort_perm ts keyLe
  exact (hkept.eq_of_length (hperm.filter _).length_eq.symm).symm

/-- Of tags in order of their keys, the last one with a key is kept. -/
theorem mem_keepLast_iff {ts : List Tag} (h : ts.Pairwise fun a b => a.1 ≤ b.1)
    (key value : String) : (key, value) ∈ keepLast ts ↔ (ts.filter (·.1 = key)).getLast? = some (key, value) := by
  fun_induction keepLast ts with
  | case1 => simp
  | case2 u =>
    by_cases hkey : u.1 = key
    · simp [hkey, eq_comm]
    · have hne : (key, value) ≠ u := by
        rintro rfl
        exact hkey rfl
      simp [hkey, hne]
  | case3 t u rest he ih =>
    rw [ih (List.pairwise_cons.mp h).2]
    by_cases hkey : t.1 = key
    · have hukey : u.1 = key := he ▸ hkey
      simp [hkey, hukey]
    · simp [hkey]
  | case4 t u rest hne ih =>
    obtain ⟨hhead, htail⟩ := List.pairwise_cons.mp h
    rw [List.mem_cons, ih htail]
    by_cases hkey : t.1 = key
    · -- All tags that come after `t` have a greater key.
      have hnone : (u :: rest).filter (·.1 = key) = [] := by
        apply List.filter_eq_nil_iff.mpr
        intro w hw hwkey
        have hlt : t.1 < u.1 := string_lt_of_le_of_ne (hhead u List.mem_cons_self) hne
        have hle : u.1 ≤ w.1 := by
          rcases List.mem_cons.mp hw with rfl | hw
          · exact String.le_refl _
          · exact (List.pairwise_cons.mp htail).1 w hw
        have hkeys : w.1 = t.1 := (of_decide_eq_true hwkey).trans hkey.symm
        rw [hkeys] at hle
        exact String.not_le.mpr hlt hle
      have hfilter : (t :: u :: rest).filter (·.1 = key) = [t] := by
        rw [List.filter_cons_of_pos (by simpa using hkey), hnone]
      rw [hfilter, hnone]
      simp [eq_comm]
    · have hfilter : (t :: u :: rest).filter (·.1 = key) = (u :: rest).filter (·.1 = key) :=
        List.filter_cons_of_neg (by simpa using hkey)
      have hother : (key, value) ≠ t := by
        rintro rfl
        exact hkey rfl
      rw [hfilter, or_iff_right hother]

theorem key_of_getLast?_filter {ts : List Tag} {key : String} {t : Tag}
    (h : (ts.filter (·.1 = key)).getLast? = some t) : t.1 = key := by
  simpa using (List.mem_filter.mp (List.mem_of_getLast? h)).2

namespace Tags

theorem get?_ofList (ts : List Tag) (key : String) :
    (ofList ts).get? key = (TagMap.ofList ts).lookup key := by
  rw [TagMap.lookup_ofList]
  apply Option.ext
  intro value
  have hkept := mem_keepLast_iff (pairwise_sortTags ts) key value
  rw [filter_sortTags] at hkept
  rw [get?_eq_some_iff]
  refine hkept.trans ?_
  rw [Option.map_eq_some_iff]
  constructor
  · intro hlast
    exact ⟨(key, value), hlast, rfl⟩
  · rintro ⟨⟨k, v⟩, hlast, rfl⟩
    obtain rfl : k = key := key_of_getLast?_filter hlast
    exact hlast

end Tags

theorem keepLast_of_strictlyKeyed {ts : List Tag} (h : StrictlyKeyed ts) : keepLast ts = ts := by
  fun_induction keepLast ts with
  | case1 => rfl
  | case2 => rfl
  | case3 t u rest he ih =>
    have hlt : t.1 < u.1 := (List.pairwise_cons.mp h).1 u List.mem_cons_self
    rw [he] at hlt
    exact absurd hlt (String.lt_irrefl u.1)
  | case4 t u rest hne ih => rw [ih (List.pairwise_cons.mp h).2]

/-- Tags are put together again from their list. -/
theorem Tags.ofList_toList (ts : Tags) : Tags.ofList ts.toList = ts := by
  have hle : ts.toList.Pairwise (fun a b => keyLe a b = true) := by
    refine ts.keyed.imp fun h => ?_
    rw [keyLe, decide_eq_true_iff]
    exact Std.le_of_lt h
  have hsort : sortTags ts.toList = ts.toList := List.mergeSort_of_pairwise hle
  apply Tags.ext
  show keepLast (sortTags ts.toList) = ts.toList
  rw [hsort]
  exact keepLast_of_strictlyKeyed ts.keyed

/-! ### One tag more, and one set of tags over another -/

theorem lookupTag_cons_of_lt {k key : String} (v : String) (rest : List Tag) (h : k < key) :
    lookupTag key ((k, v) :: rest) = lookupTag key rest := if_pos h

theorem lookupTag_cons_self (k v : String) (rest : List Tag) :
    lookupTag k ((k, v) :: rest) = some v := by
  simp only [lookupTag, if_neg (String.lt_irrefl k), if_true]

theorem lookupTag_cons_of_gt {k key : String} (v : String) (rest : List Tag) (h : key < k) :
    lookupTag key ((k, v) :: rest) = none := by
  have hnot : ¬ k < key := fun h' => String.lt_irrefl key (String.lt_trans h h')
  have hne : k ≠ key := by
    rintro rfl
    exact String.lt_irrefl k h
  simp only [lookupTag, if_neg hnot, if_neg hne]

/-- Two keys are one, or one comes before the other. -/
theorem key_trichotomy (a b : String) : a < b ∨ a = b ∨ b < a := by
  by_cases hab : a < b
  · exact .inl hab
  · by_cases hba : b < a
    · exact .inr (.inr hba)
    · exact .inr (.inl (string_eq_of_not_lt hab hba))

/-- A tag before tags with greater keys decides for its own key and leaves the others alone. -/
theorem lookupTag_cons {key value key' : String} {rest : List Tag}
    (h : key' < key → lookupTag key' rest = none) :
    lookupTag key' ((key, value) :: rest) =
      if key' = key then some value else lookupTag key' rest := by
  rcases key_trichotomy key key' with hlt | rfl | hgt
  · have hne : key' ≠ key := fun he => String.lt_irrefl key (he ▸ hlt)
    rw [lookupTag_cons_of_lt _ _ hlt, if_neg hne]
  · rw [lookupTag_cons_self, if_pos rfl]
  · have hne : key' ≠ key := fun he => String.lt_irrefl key (he ▸ hgt)
    rw [lookupTag_cons_of_gt _ _ hgt, if_neg hne, h hgt]

theorem lookupTag_insertTag {ts : List Tag} (hts : StrictlyKeyed ts) (key value key' : String) :
    lookupTag key' (insertTag key value ts) =
      if key' = key then some value else lookupTag key' ts := by
  induction ts with
  | nil => exact lookupTag_cons fun _ => rfl
  | cons t rest ih =>
    obtain ⟨k, v⟩ := t
    obtain ⟨hhead, htail⟩ := List.pairwise_cons.mp hts
    have hrest : key' < k → lookupTag key' rest = none := fun h =>
      lookupTag_eq_none_of_lt fun t ht => String.lt_trans h (hhead t ht)
    -- A search stops at the first greater key, so it matters where the new tag goes.
    rcases key_trichotomy key k with hlt | rfl | hgt
    · rw [insertTag, if_pos hlt]
      apply lookupTag_cons
      intro h
      exact lookupTag_cons_of_gt v rest (String.lt_trans h hlt)
    · rw [insertTag, if_neg (String.lt_irrefl key), if_neg (String.lt_irrefl key),
        lookupTag_cons hrest, lookupTag_cons hrest]
      split <;> rfl
    · have hnot : ¬ key < k := fun h => String.lt_irrefl k (String.lt_trans hgt h)
      have hne : k ≠ key := by
        rintro rfl
        exact String.lt_irrefl k hgt
      have hlater : key' < k → lookupTag key' (insertTag key value rest) = none := by
        intro h
        have hkey : key' ≠ key := by
          rintro rfl
          exact hnot h
        rw [ih htail, if_neg hkey, hrest h]
      rw [insertTag, if_neg hnot, if_pos hgt, lookupTag_cons hlater, lookupTag_cons hrest, ih htail]
      by_cases hk : key' = k
      · rw [if_pos hk, if_pos hk, if_neg (hk ▸ hne)]
      · rw [if_neg hk, if_neg hk]

theorem lookupTag_mergeTags (key : String) (base upper : List Tag) :
    lookupTag key (mergeTags base upper) = (lookupTag key upper).or (lookupTag key base) := by
  fun_induction mergeTags base upper with
  | case1 upper => simp [lookupTag]
  | case2 base => simp [lookupTag]
  | case3 k v base k' v' upper hlt ih =>
    rcases key_trichotomy key k with h | rfl | h
    · rw [lookupTag_cons_of_gt _ _ h, lookupTag_cons_of_gt _ _ (String.lt_trans h hlt),
        lookupTag_cons_of_gt _ _ h]
      rfl
    · rw [lookupTag_cons_self, lookupTag_cons_self, lookupTag_cons_of_gt _ _ hlt]
      rfl
    · rw [lookupTag_cons_of_lt _ _ h, lookupTag_cons_of_lt _ base h, ih]
  | case4 k v base k' v' upper _ hlt ih =>
    rcases key_trichotomy key k' with h | rfl | h
    · rw [lookupTag_cons_of_gt _ _ h, lookupTag_cons_of_gt _ _ (String.lt_trans h hlt),
        lookupTag_cons_of_gt _ _ h]
      rfl
    · rw [lookupTag_cons_self, lookupTag_cons_self, Option.some_or]
    · rw [lookupTag_cons_of_lt _ _ h, lookupTag_cons_of_lt _ upper h, ih]
  | case5 k v base k' v' upper h₁ h₂ ih =>
    obtain rfl : k = k' := string_eq_of_not_lt h₁ h₂
    rcases key_trichotomy key k with h | rfl | h
    · rw [lookupTag_cons_of_gt _ _ h, lookupTag_cons_of_gt _ _ h, lookupTag_cons_of_gt _ _ h]
      rfl
    · rw [lookupTag_cons_self, lookupTag_cons_self, Option.some_or]
    · rw [lookupTag_cons_of_lt _ _ h, lookupTag_cons_of_lt _ upper h, lookupTag_cons_of_lt _ base h,
        ih]

namespace Tags

theorem get?_insert (ts : Tags) (key value key' : String) :
    (ts.insert key value).get? key' = if key' = key then some value else ts.get? key' :=
  lookupTag_insertTag ts.keyed key value key'

/-- Of two sets of tags, one laid over the other, the upper one decides where it has the key. -/
theorem get?_overlay (base upper : Tags) (key : String) :
    (base.overlay upper).get? key = (upper.get? key).or (base.get? key) :=
  lookupTag_mergeTags key base.toList upper.toList

/-- Tags with the same values for all keys are the same tags. -/
theorem ext_get? {a b : Tags} (h : ∀ key, a.get? key = b.get? key) : a = b := by
  have hmem : ∀ t, t ∈ a.toList ↔ t ∈ b.toList := by
    rintro ⟨key, value⟩
    rw [← get?_eq_some_iff, ← get?_eq_some_iff, h key]
  have hirrefl : Std.Irrefl fun t u : Tag => t.1 < u.1 := ⟨fun t => String.lt_irrefl t.1⟩
  have hasymm : Std.Antisymm fun t u : Tag => t.1 < u.1 :=
    ⟨fun t u htu hut => absurd (String.lt_trans htu hut) (String.lt_irrefl t.1)⟩
  exact Tags.ext (a.keyed.eq_of_mem_iff b.keyed hmem)

/-- Lists of tags give the same tags exactly if they mean the same map. -/
theorem ofList_eq_iff {ts us : List Tag} :
    ofList ts = ofList us ↔ TagMap.ofList ts = TagMap.ofList us := by
  constructor
  · intro h
    apply Finmap.ext_lookup
    intro key
    rw [← get?_ofList, ← get?_ofList, h]
  · intro h
    apply ext_get?
    intro key
    rw [get?_ofList, get?_ofList, h]

end Tags

/-! ### Identities -/

namespace Id

/-- Identities are the same if they have one name and agree on the value of every key. -/
theorem ext_tag? {a b : Id} (hname : a.name = b.name) (htags : ∀ key, a.tag? key = b.tag? key) :
    a = b :=
  Id.ext hname (Tags.ext_get? htags)

end Id

/-- What an identity means: a name and a finite map of tags. -/
@[ext] structure Key where
  name : String
  tags : TagMap
deriving DecidableEq

def Id.key (id : Id) : Key := ⟨id.name, .ofList id.tags.toList⟩

theorem Id.lookup_key (id : Id) (key : String) : id.key.tags.lookup key = id.tag? key := by
  have hget := Tags.get?_ofList id.tags.toList key
  rw [Tags.ofList_toList] at hget
  exact hget.symm

theorem Id.key_inj {a b : Id} : a.key = b.key ↔ a = b := by
  constructor
  · intro h
    apply ext_tag? (congrArg Key.name h)
    intro key
    rw [← lookup_key, ← lookup_key, h]
  · rintro rfl
    rfl

/-- A way to spell an identity: the calls that put it together. -/
inductive Spelling where
  | make (name : String) (tags : List Tag)
  | withTag (base : Spelling) (key value : String)
  | withTags (base : Spelling) (tags : List Tag)

namespace Spelling

def id : Spelling → Id
  | make name tags => .make name tags
  | withTag base key value => base.id.withTag key value
  | withTags base tags => base.id.withTags tags

/-- What a spelling means, with the last value given for each key. -/
def key : Spelling → Key
  | make name tags => ⟨name, .ofList tags⟩
  | withTag base key value => { base.key with tags := base.key.tags.insert key value }
  | withTags base tags => { base.key with tags := base.key.tags.setAll tags }

theorem name_id_eq (s : Spelling) : s.id.name = s.key.name := by
  induction s with
  | make name tags => rfl
  | withTag base key value ih => exact ih
  | withTags base tags ih => exact ih

theorem tag?_id (s : Spelling) (key : String) : s.id.tag? key = s.key.tags.lookup key := by
  induction s with
  | make name tags => exact Tags.get?_ofList tags key
  | withTag base key' value ih =>
    refine (Tags.get?_insert base.id.tags key' value key).trans ?_
    rw [Spelling.key, TagMap.lookup_insert_eq_ite, ← ih]
    rfl
  | withTags base tags ih =>
    refine (Tags.get?_overlay base.id.tags (.ofList tags) key).trans ?_
    rw [Spelling.key, TagMap.lookup_setAll, ← ih, Tags.get?_ofList, TagMap.lookup_ofList]
    rfl

/-- The identity that a spelling builds has the meaning of the spelling. -/
theorem key_id (s : Spelling) : s.id.key = s.key := by
  apply Key.ext
  · exact name_id_eq s
  · apply Finmap.ext_lookup
    intro key
    rw [Id.lookup_key, tag?_id]

end Spelling

end DimensionalMetrics
