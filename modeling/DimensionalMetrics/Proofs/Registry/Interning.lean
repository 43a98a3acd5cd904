import DimensionalMetrics.Proofs.Registry.Interleaving
import DimensionalMetrics.Proofs.Tags.Lookup

/-!
# One meter for each identity

To look a meter up and to enter one are two steps, so many callers may have missed an identity
before one of them enters it, and they may have asked for different kinds.  Whoever enters first
decides for all.  The deeds of a run tell which calls these were: those that were answered with a
position that nobody had before.  The meters of a registry are those that they asked for, in that
order and at those positions for good, and every other answer follows from them.
-/

namespace DimensionalMetrics

open Registry

/-- The identity and the kind that a call asked for, if it was answered with this position. -/
def Deed.entered? (position : Nat) : Deed → Option (Id × Kind)
  | answered id kind (.ok h) => if h.position = position then some (id, kind) else none
  | _ => none

/-- What the calls asked for that were answered with a new position, in order. -/
def Deed.entered (deeds : List Deed) : List (Id × Kind) :=
  deeds.foldl (fun known d => known ++ (d.entered? known.length).toList) []

theorem Deed.entered_append (deeds : List Deed) (d : Deed) :
    entered (deeds ++ [d]) = entered deeds ++ (d.entered? (entered deeds).length).toList := by
  simp only [entered, List.foldl_append, List.foldl_cons, List.foldl_nil]

namespace Registry

/-- The identities and the kinds of the meters, in order. -/
def entries (r : Registry) : List (Id × Kind) := r.meters.map fun m => (m.id, m.kind)

theorem length_entries (r : Registry) : r.entries.length = r.meters.length := List.length_map _

theorem entries_modify (r : Registry) (i : Nat) {f : Meter → Meter} (hid : ∀ m, (f m).id = m.id)
    (hkind : ∀ m, (f m).kind = m.kind) : (r.modify i f).entries = r.entries :=
  map_modify r i fun m => by rw [hid, hkind]

/-- What a call is answered that asks for a meter, once there is one: a hold on it, or an error that
names its kind if the call wants another. -/
def Answers (r : Registry) (id : Id) (kind : Kind) (answer : Except Error Handle) : Prop :=
  ∃ i m, r.meters[i]? = some m ∧ m.id = id ∧
    answer = if m.kind = kind then .ok ⟨i, kind⟩ else .error (.kindMismatch id m.kind kind)

/-- Who was given a hold was given the one that its identity finds. -/
theorem Distinct.find?_of_answers {r : Registry} (hd : r.Distinct) {id : Id} {kind : Kind}
    {h : Handle} (ha : r.Answers id kind (.ok h)) : r.find? id = some h := by
  obtain ⟨i, m, hm, hid, hanswer⟩ := ha
  by_cases hk : m.kind = kind
  · rw [if_pos hk] at hanswer
    obtain rfl : h = ⟨i, kind⟩ := Except.ok.inj hanswer
    exact hd.find?_eq_some_iff.mpr ⟨m, hm, hid, hk⟩
  · rw [if_neg hk] at hanswer
    cases hanswer

theorem answers_expect {r : Registry} {id : Id} {h : Handle} {m : Meter}
    (hm : r.meters[h.position]? = some m) (hid : m.id = id) (hkind : m.kind = h.kind)
    (kind : Kind) : r.Answers id kind (h.expect id kind) := by
  obtain ⟨i, k⟩ := h
  obtain rfl : m.kind = k := hkind
  refine ⟨i, m, hm, hid, ?_⟩
  unfold Handle.expect
  split
  · rename_i hk
    obtain rfl : m.kind = kind := hk
    rfl
  · rfl

end Registry

namespace Shared

/-! ### One step -/

/-- A step adds a meter exactly if it answers a call with a new position, and then adds what was
asked for. -/
theorem Step.entries {s s' : Shared} {d : Deed} (hstep : Step s d s') :
    s'.registry.entries =
      s.registry.entries ++ (d.entered? s.registry.meters.length).toList := by
  -- A hold on a meter that is there tells no new position.
  have hknown : ∀ {id : Id} {h : Handle} (kind : Kind), s.registry.find? id = some h →
      (Deed.answered id kind (h.expect id kind)).entered? s.registry.meters.length = none := by
    intro id h kind hfound
    obtain ⟨m, hm, -, -⟩ := find?_spec hfound
    obtain ⟨hlt, -⟩ := List.getElem?_eq_some_iff.mp hm
    unfold Handle.expect
    split
    · exact if_neg (Nat.ne_of_lt hlt)
    · rfl
  cases hstep with
  | find kind hfound => rw [hknown kind hfound, Option.toList_none, List.append_nil]
  | miss kind hmissed => exact (List.append_nil _).symm
  | begin hfound => exact (List.append_nil _).symm
  | @enter id kind before after hmisses =>
    rcases enter_cases s.registry id kind with ⟨h, hfound, he⟩ | ⟨hnone, he⟩
    · rw [he, hknown kind hfound, Option.toList_none, List.append_nil]
    · rw [he]
      simp [Registry.entries, Handle.expect, Deed.entered?, Meter.fresh, Meter.kind]
  | @update h m u hheld hkind hmeter =>
    have hsame : (s.registry.modify h.position (·.update u)).entries = s.registry.entries :=
      entries_modify s.registry h.position (fun _ => rfl) fun m => Cell.kind_update m.cell u
    rw [hsame]
    exact (List.append_nil _).symm
  | @measure i rest before after m hsweeps hmeter =>
    have hsame : (s.registry.measureAt i).1.entries = s.registry.entries :=
      entries_modify s.registry i (fun _ => rfl) fun m => Cell.kind_reset m.cell
    rw [hsame]
    exact (List.append_nil _).symm

/-- Right after a call was answered, the meter that it asked for is there and accounts for the
answer. -/
theorem Step.answers {s s' : Shared} {id : Id} {kind : Kind} {answer : Except Error Handle}
    (hstep : Step s (.answered id kind answer) s') : s'.registry.Answers id kind answer := by
  cases hstep with
  | find kind hfound =>
    obtain ⟨m, hm, hid, hkind⟩ := find?_spec hfound
    exact answers_expect hm hid hkind kind
  | enter hmisses =>
    obtain ⟨m, hm, hid, hkind⟩ := enter_spec s.registry id kind
    exact answers_expect hm hid hkind kind

/-! ### Runs -/

/-- Whatever is done later, a meter stays at its position, with its identity and its kind. -/
theorem Run.keeps {s s' : Shared} {deeds : List Deed} (hs : s.Sound) (hrun : Run s deeds s') :
    s.registry.Keeps s'.registry := by
  induction hrun with
  | start => exact Keeps.refl s.registry
  | step hrun hstep ih => exact ih.trans (hstep.effect (hrun.sound hs)).keeps

/-- An answer that was right once stays right. -/
theorem Run.answers {s s' : Shared} {deeds : List Deed} (hs : s.Sound) (hrun : Run s deeds s')
    {id : Id} {kind : Kind} {answer : Except Error Handle}
    (ha : s.registry.Answers id kind answer) : s'.registry.Answers id kind answer := by
  obtain ⟨i, m, hm, hid, hanswer⟩ := ha
  obtain ⟨m', hm', hid', hkind'⟩ := hrun.keeps hs hm
  refine ⟨i, m', hm', hid'.trans hid, ?_⟩
  rw [hkind']
  exact hanswer

/-- The meters are those that were asked for by the calls that got a new position. -/
theorem Run.entries {config : Config} {usable : config.Valid} {deeds : List Deed} {s : Shared}
    (hrun : Run (new config usable) deeds s) : Deed.entered deeds = s.registry.entries := by
  induction hrun with
  | start => rfl
  | step hrun hstep ih =>
    rw [Deed.entered_append, ih, length_entries]
    exact hstep.entries.symm

/-- Every answer that was given fits the meters that are there now. -/
theorem Run.answers_of_mem {config : Config} {usable : config.Valid} {deeds : List Deed}
    {s : Shared} (hrun : Run (new config usable) deeds s) {id : Id} {kind : Kind}
    {answer : Except Error Handle} (hmem : .answered id kind answer ∈ deeds) :
    s.registry.Answers id kind answer := by
  induction hrun with
  | start => exact absurd hmem List.not_mem_nil
  | @step deeds s s' d hrun hstep ih =>
    rcases List.mem_append.mp hmem with hmem | hmem
    · have hs := hrun.sound (sound_new config usable)
      exact (Run.step .start hstep).answers hs (ih hmem)
    · rw [← List.mem_singleton.mp hmem] at hstep
      exact hstep.answers

/-- **All callers share one meter.**  At every point of every interleaving of calls: no two meters
have one name and one value for every tag; an identity finds the meter that reports it, and there is
such a meter for an identity and a kind exactly if these were the ones that the call had asked for
which entered it; whatever is done later, each meter stays what its identity finds, of the same kind
and at the same position; each call was answered with the meter of its identity if it had asked for
the kind of that, and otherwise with an error that names this kind; and calls that succeeded for one
identity were given one hold. -/
theorem callers_share_one_meter {config : Config} {usable : config.Valid} {deeds : List Deed}
    {s : Shared} (hrun : Run (new config usable) deeds s) :
    (∀ (i j : Nat) (a b : Meter), s.registry.meters[i]? = some a → s.registry.meters[j]? = some b →
      a.id.name = b.id.name → (∀ key, a.id.tag? key = b.id.tag? key) → i = j) ∧
    (∀ (id : Id) (h : Handle), s.registry.find? id = some h ↔
      ∃ m, s.registry.meters[h.position]? = some m ∧ m.id = id ∧ m.kind = h.kind) ∧
    (∀ (i : Nat) (id : Id) (kind : Kind), (Deed.entered deeds)[i]? = some (id, kind) ↔
      ∃ m, s.registry.meters[i]? = some m ∧ m.id = id ∧ m.kind = kind) ∧
    (∀ later s', Run s later s' → ∀ (i : Nat) (m : Meter), s.registry.meters[i]? = some m →
      s'.registry.find? m.id = some ⟨i, m.kind⟩ ∧
        ∃ m', s'.registry.meters[i]? = some m' ∧ m'.id = m.id ∧ m'.kind = m.kind) ∧
    (∀ id kind answer, .answered id kind answer ∈ deeds →
      ∃ i m, s.registry.meters[i]? = some m ∧ m.id = id ∧
        answer = if m.kind = kind then .ok ⟨i, kind⟩ else .error (.kindMismatch id m.kind kind)) ∧
    (∀ id id' kind kind' h h', .answered id kind (.ok h) ∈ deeds →
      .answered id' kind' (.ok h') ∈ deeds → id.name = id'.name →
      (∀ key, id.tag? key = id'.tag? key) → h = h') := by
  have hs : s.Sound := hrun.sound (sound_new config usable)
  refine ⟨?_, ?_, ?_, ?_, ?_, ?_⟩
  · intro i j a b ha hb hname htags
    exact hs.distinct.eq_of_id ha hb (Id.ext_tag? hname htags)
  · intro id h
    exact hs.distinct.find?_eq_some_iff
  · intro i id kind
    rw [hrun.entries, Registry.entries, List.getElem?_map, Option.map_eq_some_iff]
    simp only [Prod.mk.injEq]
  · intro later s' hlater i m hm
    obtain ⟨m', hm', hid, hkind⟩ := hlater.keeps hs hm
    have hs' := hlater.sound hs
    exact ⟨hs'.distinct.find?_eq_some_iff.mpr ⟨m', hm', hid, hkind⟩, m', hm', hid, hkind⟩
  · intro id kind answer hmem
    exact hrun.answers_of_mem hmem
  · intro id id' kind kind' h h' hmem hmem' hname htags
    obtain rfl : id = id' := Id.ext_tag? hname htags
    have hfound := hs.distinct.find?_of_answers (hrun.answers_of_mem hmem)
    have hfound' := hs.distinct.find?_of_answers (hrun.answers_of_mem hmem')
    exact Option.some.inj (hfound.symm.trans hfound')

/-- Two callers miss one identity, a third of them is late and gives its tags in another order and
one of them twice.  The first to enter wanted a timer, so the second, which wanted a counter, is
refused, and the timer is there for good. -/
theorem timer_shared_after_race :
    ∃ id other deeds s, Run (new {} (by decide)) deeds s ∧
      id = Id.make "latency" [("path", "/"), ("zone", "b")] ∧
      other = Id.make "latency" [("zone", "a"), ("path", "/"), ("zone", "b")] ∧
      deeds = [.missed id .timer, .missed id .counter, .answered id .timer (.ok ⟨0, .timer⟩),
        .answered id .counter (.error (.kindMismatch id .timer .counter)),
        .answered other .timer (.ok ⟨0, .timer⟩)] ∧
      ∀ later s', Run s later s' → s'.registry.find? id = some ⟨0, .timer⟩ := by
  have usable : Config.Valid {} := by decide
  have hexists : ∃ id, id = Id.make "latency" [("path", "/"), ("zone", "b")] := exists_eq
  refine hexists.elim fun id hid => ?_
  have hsame : id = Id.make "latency" [("zone", "a"), ("path", "/"), ("zone", "b")] := by
    rw [hid]
    exact Id.ext rfl (Tags.ofList_eq_iff.mpr (by decide))
  let r : Registry := ⟨{}, usable, [.fresh id .timer]⟩
  have hfound : r.find? id = some ⟨0, .timer⟩ := by simp [r, find?, Meter.fresh, Meter.kind]
  have hmissed : Run (new {} usable) [.missed id .timer, .missed id .counter]
      ⟨⟨{}, usable, []⟩, [], [(id, .counter), (id, .timer)], []⟩ :=
    .step (.step .start (.miss .timer rfl)) (.miss .counter rfl)
  have hfirst : Run _ _ ⟨r, [⟨0, .timer⟩], [(id, .counter)], []⟩ :=
    .step hmissed (.enter (show _ = [(id, .counter)] ++ (id, .timer) :: [] from rfl))
  have hloser := Step.enter (s := ⟨r, [⟨0, .timer⟩], [(id, .counter)], []⟩)
    (show _ = [] ++ (id, .counter) :: [] from rfl)
  rw [enter_of_find? .counter hfound] at hloser
  have hlate := Run.step (.step hfirst hloser) (.find .timer hfound)
  refine ⟨id, id, _, _, hlate, hid, hsame, rfl, ?_⟩
  intro later s' hlater
  obtain ⟨-, -, -, hstays, -, -⟩ := callers_share_one_meter hlate
  exact (hstays later s' hlater 0 (.fresh id .timer) rfl).1

end Shared

end DimensionalMetrics
