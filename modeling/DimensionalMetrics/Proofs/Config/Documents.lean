import DimensionalMetrics.Proofs.Config.Loading
import DimensionalMetrics.Proofs.Json.Skipping
import DimensionalMetrics.Proofs.Tags.Lookup
import DimensionalMetrics.Proofs.Time.Plain

/-!
# Configuration documents

A document is the text of an object that gives some members of a configuration, in any order and
between members of other names.  Reading one gives the configuration that has these members, and the
defaults for the others, however the text is laid out and its strings are escaped.
-/

namespace DimensionalMetrics.Config

open Json Json.Scan

/-! ### Texts of objects -/

/-- A string in quotes. -/
def QuotedText (s : String) (cs : List Char) : Prop :=
  ∃ inner, Spells inner s.toList ∧ cs = '"' :: (inner ++ ['"'])

/-- What stands before a key: blanks, and a comma unless it is the first key. -/
inductive Lead : Bool → List Char → Prop
  | first {ws : List Char} (hws : Blank ws) : Lead true ws
  | next {ws ws' : List Char} (hws : Blank ws) (hws' : Blank ws') : Lead false (ws ++ ',' :: ws')

/-- The members of an object and its closing brace.  `W x key value` says that a member `x` may have
this key and this text of a value. -/
inductive MembersText {α : Type} (W : α → String → List Char → Prop) :
    Bool → List α → List Char → Prop
  | close {first : Bool} {ws : List Char} (hws : Blank ws) : MembersText W first [] (ws ++ ['\x7d'])
  | member {first : Bool} {x : α} {xs : List α} {key : String}
      {lead quoted ws ws' value cs : List Char} (hlead : Lead first lead)
      (hkey : QuotedText key quoted) (hws : Blank ws) (hws' : Blank ws') (hvalue : W x key value)
      (hrest : MembersText W false xs cs) :
      MembersText W first (x :: xs) (lead ++ (quoted ++ (ws ++ ':' :: (ws' ++ (value ++ cs)))))

/-- An object of tags, in any order. -/
def TagsText (ts : Tags) (cs : List Char) : Prop :=
  ∃ (given : List Tag) (members : List Char), given.Perm ts.toList ∧
    MembersText (fun t key value => t.1 = key ∧ QuotedText t.2 value) true given members ∧
    cs = '\x7b' :: members

/-! ### Texts of configurations -/

/-- The text of a member's value. -/
def Writes (c : Config) : Member → List Char → Prop
  | .frequency, cs => QuotedText (String.ofList c.frequency.plain) cs
  | .timeout, cs => QuotedText (String.ofList c.timeout.plain) cs
  | .uri, cs => QuotedText c.uri cs
  | .batchSize, cs => cs = Decimal.digits c.batchSize
  | .commonTags, cs => TagsText c.commonTags cs

/-- A member of a document: one of the configuration's, or one with another name and any value. -/
def EntryText (c : Config) : Option Member → String → List Char → Prop
  | some m, key, value => m.key = key ∧ c.Writes m value
  | none, key, value => (∀ m : Member, m.key ≠ key) ∧ ValueText value

/-- The text of an object with these members of a configuration. -/
def DocumentText (c : Config) (ms : List (Option Member)) (text : String) : Prop :=
  ∃ ws cs ws', Blank ws ∧ MembersText c.EntryText true ms cs ∧ Blank ws' ∧
    text.toList = ws ++ '\x7b' :: (cs ++ ws')

/-! ### Reading an object -/

section Objects

variable {α : Type} {W : α → String → List Char → Prop} {first : Bool} {x : α} {xs : List α}
  {key s : String} {lead quoted ws ws' value cs : List Char}

theorem string_of_quotedText (h : QuotedText s quoted) (rest : List Char) :
    ∃ inner, quoted ++ rest = '"' :: inner ∧ string inner = .ok (s.toList, rest) := by
  obtain ⟨inner, hinner, rfl⟩ := h
  exact ⟨inner ++ '"' :: rest, by simp, string_of_spells hinner rest⟩

theorem nextKey_lead (h : Lead first lead) (rest : List Char) :
    nextKey first (lead ++ '"' :: rest) = .ok (.inl rest) := by
  cases h with
  | first hws =>
    rw [nextKey, skipSpace_append hws, skipSpace_cons (by decide)]
    rfl
  | @next ws ws' hws hws' =>
    rw [List.append_assoc, List.cons_append, nextKey, skipSpace_append hws,
      skipSpace_cons (by decide)]
    dsimp only
    rw [skipSpace_append hws', skipSpace_cons (by decide)]
    rfl

theorem nextKey_close (h : Blank ws) (first : Bool) (rest : List Char) :
    nextKey first (ws ++ ['\x7d'] ++ rest) = .ok (.inr rest) := by
  rw [List.append_assoc, nextKey, skipSpace_append h, List.singleton_append,
    skipSpace_cons (by decide)]
  rfl

theorem nextMember_of_text (hlead : Lead first lead) (hkey : QuotedText key quoted) (hws : Blank ws)
    (rest : List Char) : NextMember first (lead ++ (quoted ++ (ws ++ ':' :: rest))) key rest := by
  obtain ⟨inner, hquoted, hstring⟩ := string_of_quotedText hkey (ws ++ ':' :: rest)
  refine ⟨inner, _, _, ?_, hstring, String.ofList_toList, ?_⟩
  · rw [hquoted, nextKey_lead hlead]
  · rw [colon, skipSpace_append hws, skipSpace_cons (by decide)]
    rfl

theorem readString_of_quotedText (wanted : Wanted) (hws : Blank ws) (h : QuotedText s quoted)
    (rest : List Char) : readString wanted (ws ++ (quoted ++ rest)) = .ok (s, rest) := by
  obtain ⟨inner, hquoted, hstring⟩ := string_of_quotedText h rest
  rw [readString, hquoted, skipSpace_append hws, skipSpace_cons (by decide)]
  simp [hstring, lift, Except.map]

/-- There are at least as many characters as members. -/
theorem MembersText.length_lt (h : MembersText W first xs cs) : xs.length < cs.length := by
  induction h with
  | close hws => simp
  | member hlead hkey hws hws' hvalue hrest ih =>
    simp only [List.length_append, List.length_cons]
    omega

/-- A numeral before the next comma or the closing brace ends there. -/
theorem MembersText.endsNumeral (h : MembersText W false xs cs) (rest : List Char) :
    EndsNumeral (cs ++ rest) := by
  cases h with
  | close hws =>
    rw [List.append_assoc]
    exact endsNumeral_append hws (endsNumeral_closing .object rest)
  | member hlead hkey hws hws' hvalue hrest =>
    cases hlead with
    | next hlead hlead' =>
      rw [List.append_assoc, List.append_assoc]
      exact endsNumeral_append hlead (endsNumeral_comma _)

end Objects

/-! ### Reading values -/

theorem fillWord_eq (ds : List Char) (n : Nat)
    (hfits : ds.foldl (fun n d => 10 * n + (d.toNat - 48)) n < wordCount) :
    fillWord n ds = (ds.foldl (fun n d => 10 * n + (d.toNat - 48)) n, []) := by
  induction ds generalizing n with
  | nil => rfl
  | cons d ds ih =>
    have hnext : 10 * n + (d.toNat - 48) < wordCount :=
      Nat.lt_of_le_of_lt (Duration.le_foldl_digits _ ds) hfits
    rw [fillWord, if_pos hnext]
    exact ih _ hfits

theorem number?_natural {n : Nat} (h : n < wordCount) :
    (Numeral.natural n).number? = some (.natural n) := by
  have hvalue : fillWord 0 (Decimal.digits n) = (n, []) := by
    have hdigits := digitsValue_digits n
    rw [digitsValue] at hdigits
    rw [fillWord_eq _ 0 (hdigits.symm ▸ h), hdigits]
  simp [Numeral.number?, Numeral.natural, hvalue]

theorem readSize_digits {n : Nat} (hn : n < wordCount) {ws rest : List Char} (hws : Blank ws)
    (hrest : EndsNumeral rest) : readSize (ws ++ (Decimal.digits n ++ rest)) = .ok (n, rest) := by
  obtain ⟨hne, hall⟩ := areDigits_digits n
  have hnumeral := numeral_chars (Numeral.wellFormed_natural n) hrest
  rw [Numeral.chars_natural] at hnumeral
  cases hdigits : Decimal.digits n with
  | nil => exact absurd hdigits hne
  | cons d ds =>
    rw [hdigits] at hall hnumeral
    have hd := hall d List.mem_cons_self
    rw [readSize, List.cons_append, skipSpace_append hws,
      skipSpace_cons (startsValue_of_numeral (.inr hd)).1]
    rw [List.cons_append] at hnumeral
    simp [hd, hnumeral, number?_natural hn]

theorem ofList_of_perm {ts : Tags} {given : List Tag} (h : given.Perm ts.toList) :
    Tags.ofList given = ts := by
  have hperm : (sortTags given).Perm ts.toList := (List.mergeSort_perm given keyLe).trans h
  have hle : ts.toList.Pairwise fun t u => t.1 ≤ u.1 := ts.keyed.imp fun h => Std.le_of_lt h
  have hantisymm : ∀ t u : Tag, t ∈ sortTags given → u ∈ ts.toList → t.1 ≤ u.1 → u.1 ≤ t.1 →
      t = u := by
    intro t u ht hu htu hut
    have hkey : t.1 = u.1 := String.le_antisymm htu hut
    have hvalue : ts.get? t.1 = some t.2 := Tags.get?_eq_some_iff.mpr (hperm.subset ht)
    rw [hkey, Tags.get?_eq_some_iff.mpr hu] at hvalue
    exact Prod.ext hkey (Option.some.inj hvalue).symm
  apply Tags.ext
  show keepLast (sortTags given) = ts.toList
  rw [hperm.eq_of_pairwise hantisymm (pairwise_sortTags given) hle]
  exact keepLast_of_strictlyKeyed ts.keyed

theorem readTagMembers_of_nextMember {first : Bool} {key : String} {cs value : List Char}
    (h : NextMember first cs key value) (fuel : Nat) :
    readTagMembers (fuel + 1) first cs =
      readString .string value >>= fun (v, rest) =>
        readTagMembers fuel false rest >>= fun (more, rest) => .ok ((key, v) :: more, rest) := by
  obtain ⟨quoted, ds, rest, hkey, hstring, rfl, hcolon⟩ := h
  rw [readTagMembers]
  simp only [bind, Except.bind, hkey, hstring, lift, hcolon]

theorem readTagMembers_of_text {first : Bool} {given : List Tag} {cs : List Char} {fuel : Nat}
    (h : MembersText (fun t key value => t.1 = key ∧ QuotedText t.2 value) first given cs)
    (hfuel : given.length < fuel) (rest : List Char) :
    readTagMembers fuel first (cs ++ rest) = .ok (given, rest) := by
  induction h generalizing fuel with
  | @close first ws hws =>
    obtain ⟨fuel, rfl⟩ := Nat.exists_eq_succ_of_ne_zero (Nat.ne_zero_of_lt hfuel)
    rw [readTagMembers, nextKey_close hws]
    rfl
  | @member first t given key lead quoted ws ws' value cs hlead hkey hws hws' hvalue hrest ih =>
    obtain ⟨fuel, rfl⟩ := Nat.exists_eq_succ_of_ne_zero (Nat.ne_zero_of_lt hfuel)
    obtain ⟨rfl, hvalue⟩ := hvalue
    have hnext := nextMember_of_text hlead hkey hws (ws' ++ (value ++ (cs ++ rest)))
    simp only [List.append_assoc, List.cons_append]
    rw [readTagMembers_of_nextMember hnext, readString_of_quotedText .string hws' hvalue]
    show (readTagMembers fuel false (cs ++ rest) >>= _) = _
    rw [ih (Nat.lt_of_succ_lt_succ hfuel)]
    rfl

theorem readTags_of_text {ts : Tags} {ws cs : List Char} (hws : Blank ws) (h : TagsText ts cs)
    (rest : List Char) : readTags (ws ++ (cs ++ rest)) = .ok (ts, rest) := by
  obtain ⟨given, members, hperm, hmembers, rfl⟩ := h
  have hfuel : given.length < (members ++ rest).length + 1 := by
    have hlength := hmembers.length_lt
    rw [List.length_append]
    omega
  rw [readTags, skipSpace_append hws, List.cons_append, skipSpace_cons (by decide)]
  simp only [readTagMembers_of_text hmembers hfuel, Except.map, ofList_of_perm hperm]

/-! ### Reading members -/

namespace Draft

/-- A draft with a member of a configuration. -/
def set (d : Draft) (c : Config) : Member → Draft
  | .frequency => { d with frequency := some c.frequency }
  | .timeout => { d with timeout := some c.timeout }
  | .uri => { d with uri := some c.uri }
  | .batchSize => { d with batchSize := some c.batchSize }
  | .commonTags => { d with commonTags := some c.commonTags }

/-- A draft with several members of a configuration. -/
def setAll (d : Draft) (c : Config) (ms : List (Option Member)) : Draft :=
  ms.foldl (fun d m => m.elim d (d.set c)) d

theorem has_set (d : Draft) (c : Config) (m m' : Member) :
    (d.set c m).has m' = (decide (m' = m) || d.has m') := by
  cases m <;> cases m' <;> simp [set, has]

theorem setAll_eq (d : Draft) (c : Config) (ms : List (Option Member)) :
    d.setAll c ms =
      { frequency := if some .frequency ∈ ms then some c.frequency else d.frequency
        timeout := if some .timeout ∈ ms then some c.timeout else d.timeout
        uri := if some .uri ∈ ms then some c.uri else d.uri
        batchSize := if some .batchSize ∈ ms then some c.batchSize else d.batchSize
        commonTags := if some .commonTags ∈ ms then some c.commonTags else d.commonTags } := by
  induction ms generalizing d with
  | nil => simp [setAll]
  | cons m ms ih =>
    rw [setAll, List.foldl_cons, ← setAll, ih]
    rcases m with _ | m
    · simp
    · cases m <;> simp [set]

end Draft

theorem ofKey?_eq_none {key : String} (h : ∀ m : Member, m.key ≠ key) :
    Member.ofKey? key = none := by
  rw [Member.ofKey?, List.find?_eq_none]
  exact fun m _ => by simpa using h m

theorem readDuration_of_quotedText {d : Duration} {ws cs : List Char} (hws : Blank ws)
    (h : QuotedText (String.ofList d.plain) cs) (rest : List Char) :
    readDuration (ws ++ (cs ++ rest)) = .ok (d, rest) := by
  rw [readDuration, readString_of_quotedText .duration hws h]
  simp only [Duration.read_plain]

theorem readMember_of_writes {c : Config} (hsize : c.batchSize < wordCount) {m : Member}
    {ws value rest : List Char} (hws : Blank ws) (hvalue : c.Writes m value)
    (hrest : EndsNumeral rest) (d : Draft) :
    d.readMember m (ws ++ (value ++ rest)) = .ok (d.set c m, rest) := by
  cases m with
  | frequency => rw [Draft.readMember, readDuration_of_quotedText hws hvalue]; rfl
  | timeout => rw [Draft.readMember, readDuration_of_quotedText hws hvalue]; rfl
  | uri => rw [Draft.readMember, readString_of_quotedText .string hws hvalue]; rfl
  | batchSize =>
    obtain rfl : value = Decimal.digits c.batchSize := hvalue
    rw [Draft.readMember, readSize_digits hsize hws hrest]
    rfl
  | commonTags => rw [Draft.readMember, readTags_of_text hws hvalue]; rfl

theorem readMembers_of_text {c : Config} (hsize : c.batchSize < wordCount) {first : Bool}
    {ms : List (Option Member)} {cs : List Char} (h : MembersText c.EntryText first ms cs)
    (honce : (ms.filterMap id).Nodup) {d : Draft} (hnew : ∀ m, some m ∈ ms → d.has m = false)
    {fuel : Nat} (hfuel : ms.length < fuel) (rest : List Char) :
    readMembers fuel first d (cs ++ rest) = .ok (d.setAll c ms, rest) := by
  induction h generalizing d fuel with
  | @close first ws hws =>
    obtain ⟨fuel, rfl⟩ := Nat.exists_eq_succ_of_ne_zero (Nat.ne_zero_of_lt hfuel)
    rw [readMembers, nextKey_close hws]
    rfl
  | @member first m ms key lead quoted ws ws' value cs hlead hkey hws hws' hvalue hrest ih =>
    obtain ⟨fuel, rfl⟩ := Nat.exists_eq_succ_of_ne_zero (Nat.ne_zero_of_lt hfuel)
    have hleft := Nat.lt_of_succ_lt_succ hfuel
    have hnext := nextMember_of_text hlead hkey hws (ws' ++ (value ++ (cs ++ rest)))
    have hends := hrest.endsNumeral rest
    simp only [List.append_assoc, List.cons_append]
    rw [readMembers_of_nextMember hnext]
    rcases m with _ | m
    · obtain ⟨hother, hvalue⟩ := hvalue
      rw [ofKey?_eq_none hother]
      dsimp only
      rw [skip_of_valueText hws' hvalue hends]
      exact ih honce (fun m hm => hnew m (List.mem_cons_of_mem _ hm)) hleft
    · obtain ⟨rfl, hvalue⟩ := hvalue
      obtain ⟨hfresh, honce⟩ := List.nodup_cons.mp honce
      have hnew' : ∀ m', some m' ∈ ms → (d.set c m).has m' = false := by
        intro m' hm'
        have hne : m' ≠ m := by
          rintro rfl
          exact hfresh (List.mem_filterMap.mpr ⟨some m', hm', rfl⟩)
        rw [Draft.has_set, decide_eq_false hne, Bool.false_or]
        exact hnew m' (List.mem_cons_of_mem _ hm')
      rw [ofKey?_key]
      dsimp only
      rw [hnew m List.mem_cons_self, if_neg Bool.false_ne_true,
        readMember_of_writes hsize hws' hvalue hends]
      exact ih honce hnew' hleft

/-- The configuration of the members that a document gives. -/
theorem toConfig_setAll (c : Config) (ms : List (Option Member)) :
    (Draft.setAll {} c ms).toConfig =
      { frequency := if some .frequency ∈ ms then c.frequency else .ofSeconds 5
        timeout := if some .timeout ∈ ms then c.timeout else .ofSeconds 1
        uri := if some .uri ∈ ms then c.uri else ""
        batchSize := if some .batchSize ∈ ms then c.batchSize else 10000
        commonTags := if some .commonTags ∈ ms then c.commonTags else .empty } := by
  have hgetD : ∀ {α : Type} (p : Prop) [Decidable p] (a b : α),
      (if p then some a else none).getD b = if p then a else b := by
    intro α p _ a b
    split <;> rfl
  rw [Draft.setAll_eq, Draft.toConfig]
  simp only [hgetD]

/-- **A document is read as what it says.** -/
theorem document_read {c : Config} (hsize : c.batchSize < wordCount) {ms : List (Option Member)}
    (honce : (ms.filterMap id).Nodup) {text : String} (h : DocumentText c ms text) :
    Config.read text = .ok
      { frequency := if some .frequency ∈ ms then c.frequency else .ofSeconds 5
        timeout := if some .timeout ∈ ms then c.timeout else .ofSeconds 1
        uri := if some .uri ∈ ms then c.uri else ""
        batchSize := if some .batchSize ∈ ms then c.batchSize else 10000
        commonTags := if some .commonTags ∈ ms then c.commonTags else .empty } := by
  obtain ⟨ws, cs, ws', hws, hmembers, hws', htext⟩ := h
  have hspace : skipSpace text.toList = '\x7b' :: (cs ++ ws') := by
    rw [htext, skipSpace_append hws, skipSpace_cons (by decide)]
  have hfuel : ms.length < (cs ++ ws').length + 1 := by
    have hlength := hmembers.length_lt
    rw [List.length_append]
    omega
  have hend : skipSpace ws' = [] := by
    rw [← List.append_nil ws', skipSpace_append hws']
    rfl
  have hread := readMembers_of_text hsize hmembers honce (d := {}) (fun m _ => by cases m <;> rfl)
    hfuel ws'
  rw [Config.read, hspace, ← toConfig_setAll]
  simp only [hread, bind, Except.bind, hend, if_true]

/-- A document with a value that nobody needs, and a key with an escape. -/
theorem escaped_document_read :
    Config.read "\x7b\"x\":[-1E2,\x7b \"\\uD800\":null\x7d] ,\"fre\\u0071uency\":\"2s 5ns\"\x7d" =
      .ok { frequency := ⟨2, 5⟩ } := by
  have hblank : Blank [] := by simp [Blank]
  have hspace : Blank [' '] := by simp [Blank, isSpace]
  have hexponent : ExponentText ['E', '2'] :=
    .inr ⟨'E', [], ['2'], .inr rfl, .inl rfl, ⟨by simp, by simp⟩, rfl⟩
  have hnumber : NumberText ('-' :: (['1'] ++ ([] ++ ['E', '2']))) :=
    .negative ⟨by simp, by simp⟩ (by simp) (.inl rfl) hexponent
  have hhalf : CharText ('\\' :: 'u' :: ['D', '8', '0', '0']) := .unit ⟨rfl, rfl⟩
  have hlabel := LabelText.key hspace (.cons hhalf .nil) hblank
  have hobject := PieceText.filled
    (.entry hlabel hblank (.scalar .null) hblank (.close (e := .object)))
  have harray := PieceText.filled
    (.entry .item hblank (.scalar (.number hnumber)) hblank
      (.next (.entry .item hblank hobject hblank (.close (e := .array)))))
  have hx : QuotedText "x" "\"x\"".toList := ⟨['x'], spells_self (by simp), rfl⟩
  have hother : ∀ m : Member, m.key ≠ "x" := by
    intro m
    cases m <;> simp [Member.key]
  have hq : SpellsChar ('\\' :: 'u' :: ['0', '0', '7', '1']) 'q' := .unit ⟨rfl, rfl⟩
  have hfre : Spells "fre".toList "fre".toList := spells_self (by simp)
  have huency : Spells "uency".toList "uency".toList := spells_self (by simp)
  have hkey : QuotedText "frequency" "\"fre\\u0071uency\"".toList :=
    ⟨_, hfre.append (.cons hq huency), rfl⟩
  have hvalue : Writes { frequency := ⟨2, 5⟩ } .frequency "\"2s 5ns\"".toList :=
    ⟨"2s 5ns".toList, spells_self (by simp), rfl⟩
  have hmembers : MembersText (EntryText { frequency := ⟨2, 5⟩ }) true [none, some .frequency] _ :=
    .member (.first hblank) hx hblank hblank ⟨hother, harray⟩
      (.member (.next hspace hblank) hkey hblank hblank ⟨rfl, hvalue⟩ (.close hblank))
  have hdocument : DocumentText { frequency := ⟨2, 5⟩ } [none, some .frequency]
      "\x7b\"x\":[-1E2,\x7b \"\\uD800\":null\x7d] ,\"fre\\u0071uency\":\"2s 5ns\"\x7d" :=
    ⟨[], _, [], hblank, hmembers, hblank, rfl⟩
  have hread := document_read (by decide) (by decide) hdocument
  simpa using hread

end DimensionalMetrics.Config
