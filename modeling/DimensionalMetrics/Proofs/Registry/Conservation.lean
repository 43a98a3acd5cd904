import DimensionalMetrics.Proofs.Meter.Accumulation
import DimensionalMetrics.Proofs.Registry.Interleaving

/-!
# Nothing is lost under many callers

From the deeds of a run the history of each cell can be told: the updates of its meter and the
takings of its contents, in the order in which they happened.  The cell of every registered meter has
exactly the contents that its own history leads to, whoever made the steps.  What is known of the
history of one cell therefore holds of every meter at every point of every run.
-/

namespace DimensionalMetrics

open Registry

/-- The part of a deed that concerns the cell of one identity. -/
def Deed.cellEvent? (id : Id) : Deed → Option CellEvent
  | updated id' u => if id' = id then some (.update u) else none
  | measured m _ => if m.id = id then some (.take m.cell) else none
  | _ => none

/-- The history of the cell of one identity. -/
def Deed.history (id : Id) (deeds : List Deed) : List CellEvent := deeds.filterMap (cellEvent? id)

namespace Deed

theorem history_append (id : Id) (deeds : List Deed) (d : Deed) :
    history id (deeds ++ [d]) = history id deeds ++ (d.cellEvent? id).toList := by
  unfold history
  rw [List.filterMap_append]
  rfl

theorem history_append_of_none {id : Id} {d : Deed} (h : d.cellEvent? id = none)
    (deeds : List Deed) : history id (deeds ++ [d]) = history id deeds := by
  rw [history_append, h, Option.toList_none, List.append_nil]

end Deed

namespace Shared

/-- Every cell follows its own history, and an identity without a meter has none. -/
structure Follows (deeds : List Deed) (r : Registry) : Prop where
  reached : ∀ {i : Nat} {m : Meter}, r.meters[i]? = some m →
    m.cell.Reached m.kind (Deed.history m.id deeds)
  unknown : ∀ {id : Id}, (∀ m ∈ r.meters, m.id ≠ id) → Deed.history id deeds = []

/-- A change to the one meter of an identity, told by a deed, is an event of that cell alone. -/
theorem Follows.modify {deeds : List Deed} {r : Registry} (hf : Follows deeds r) (hd : r.Distinct)
    {d : Deed} {f : Meter → Meter} {i : Nat} {m : Meter} {e : CellEvent}
    (hmeter : r.meters[i]? = some m) (hid : ∀ a, (f a).id = a.id)
    (hmine : d.cellEvent? m.id = some e) (hother : ∀ id, id ≠ m.id → d.cellEvent? id = none)
    (hnext : (f m).cell.Reached (f m).kind (Deed.history m.id deeds ++ [e])) :
    Follows (deeds ++ [d]) (r.modify i f) where
  reached := by
    intro j m' hm'
    obtain ⟨a, ha, rfl⟩ := getElem?_modify f hm'
    by_cases hij : i = j
    · subst hij
      obtain rfl : a = m := Option.some.inj (ha.symm.trans hmeter)
      rw [if_pos rfl, hid, Deed.history_append, hmine]
      exact hnext
    · have hne : a.id ≠ m.id := fun h => hij (hd.eq_of_id hmeter ha h.symm)
      rw [if_neg hij, Deed.history_append_of_none (hother a.id hne)]
      exact hf.reached ha
  unknown := by
    intro id hall
    have hids := map_id_modify r i hid
    have hnone : ∀ a ∈ r.meters, a.id ≠ id := by
      intro a ha he
      have hmem : id ∈ (r.modify i f).meters.map Meter.id := by
        rw [hids]
        exact List.mem_map.mpr ⟨a, ha, he⟩
      obtain ⟨b, hb, hb'⟩ := List.mem_map.mp hmem
      exact hall b hb hb'
    have hne : id ≠ m.id := fun h => hnone m (List.mem_of_getElem? hmeter) h.symm
    rw [Deed.history_append_of_none (hother id hne)]
    exact hf.unknown hnone

/-- A deed that concerns no cell. -/
theorem Follows.quiet {deeds : List Deed} {r : Registry} (hf : Follows deeds r) {d : Deed}
    (hquiet : ∀ id, d.cellEvent? id = none) : Follows (deeds ++ [d]) r where
  reached := by
    intro i m hm
    rw [Deed.history_append_of_none (hquiet m.id)]
    exact hf.reached hm
  unknown := by
    intro id hall
    rw [Deed.history_append_of_none (hquiet id)]
    exact hf.unknown hall

/-- Nothing has happened yet to a meter that is new. -/
theorem Follows.append {deeds : List Deed} {r : Registry} (hf : Follows deeds r) {id : Id}
    (hnew : r.find? id = none) (kind : Kind) :
    Follows deeds { r with meters := r.meters ++ [.fresh id kind] } where
  reached := by
    intro i m hm
    rcases List.mem_append.mp (List.mem_of_getElem? hm) with hmem | hmem
    · obtain ⟨j, hj⟩ := List.mem_iff_getElem?.mp hmem
      exact hf.reached hj
    · have hempty : Deed.history (Meter.fresh id kind).id deeds = [] :=
        hf.unknown (find?_eq_none_iff.mp hnew)
      have hkind : (Meter.fresh id kind).kind = kind := Cell.kind_fresh kind
      rw [List.mem_singleton.mp hmem, hempty, hkind]
      exact .fresh
  unknown := by
    intro id' hall
    exact hf.unknown fun m hm => hall m (List.mem_append_left _ hm)

theorem Follows.step {deeds : List Deed} {r r' : Registry} {d : Deed} (hf : Follows deeds r)
    (hd : r.Distinct) (he : Effect r d r') : Follows (deeds ++ [d]) r' := by
  cases he with
  | none hupdated hmeasured =>
    refine hf.quiet fun id => ?_
    cases d with
    | missed | answered | began => rfl
    | updated id' u => exact absurd rfl (hupdated id' u)
    | measured m reported => exact absurd rfl (hmeasured m reported)
  | @added id kind answer hnew => exact (hf.append hnew kind).quiet fun _ => rfl
  | @updated i m u hmeter hkind =>
    refine hf.modify hd hmeter (fun _ => rfl) (e := .update u) ?_ ?_ ?_
    · simp [Deed.cellEvent?]
    · intro id hne
      simp [Deed.cellEvent?, Ne.symm hne]
    · have hsame : (m.update u).kind = m.kind := Cell.kind_update m.cell u
      rw [hsame]
      exact (hf.reached hmeter).update hkind
  | @measured i m hmeter =>
    refine hf.modify hd hmeter (fun _ => rfl) (e := .take m.cell) ?_ ?_ ?_
    · simp [Deed.cellEvent?]
    · intro id hne
      simp [Deed.cellEvent?, Ne.symm hne]
    · have hsame : m.reset.kind = m.kind := Cell.kind_reset m.cell
      rw [hsame]
      exact (hf.reached hmeter).take

/-- **Every cell follows its own history.**  However the steps of the callers fall, a registered
meter has the contents to which its own updates and takings lead. -/
theorem Run.follows {config : Config} {usable : config.Valid} {deeds : List Deed} {s : Shared}
    (hrun : Run (new config usable) deeds s) : Follows deeds s.registry := by
  induction hrun with
  | start =>
    refine ⟨fun hm => ?_, fun _ => rfl⟩
    simp [new] at hm
  | step hrun hstep ih =>
    have hs := hrun.sound (sound_new config usable)
    exact ih.step hs.distinct (hstep.effect hs)

/-- What is reported when a meter is measured are the values of the contents that were taken. -/
theorem Run.reported_eq {start s : Shared} {deeds : List Deed} (hrun : Run start deeds s) {m : Meter}
    {reported : List Measurement} (hmeasured : .measured m reported ∈ deeds) :
    reported = m.measurements := by
  obtain ⟨before, after, hdeeds⟩ := List.append_of_mem hmeasured
  obtain ⟨-, -, -, hreported⟩ := hrun.before_measured hdeeds
  exact hreported

end Shared

/-- How the contents of a cell account for its history. -/
def Cell.AccountsFor (events : List CellEvent) : Cell → Prop
  | counter n =>
    ((CellEvent.sumsTaken events).map UInt64.toNat).sum + n.toNat ≡
      ((CellEvent.added events).map UInt64.toNat).sum [MOD wordCount]
  | gauge _ => True
  | timer p | distributionSummary p =>
    let (closed, current) := CellEvent.byPeriod events
    closed.flatten ++ current = CellEvent.accepted events ∧
      List.Forall₂ (fun amounts q => q.Tallies amounts) closed (CellEvent.periodsTaken events) ∧
      p.Tallies current

theorem Cell.Reached.accountsFor {kind : Kind} {events : List CellEvent} {c : Cell}
    (h : c.Reached kind events) : c.AccountsFor events := by
  have hkind := h.kind_eq
  cases c with
  | counter n =>
    obtain rfl : Kind.counter = kind := hkind
    obtain ⟨n', hn, hsum⟩ := h.counter
    cases hn
    exact hsum
  | gauge x => trivial
  | timer p =>
    obtain ⟨q, hq, htally, hclosed⟩ := h.period (.inl hkind.symm)
    cases hq
    exact ⟨CellEvent.flatten_byPeriod events, hclosed, htally⟩
  | distributionSummary p =>
    obtain ⟨q, hq, htally, hclosed⟩ := h.period (.inr hkind.symm)
    cases hq
    exact ⟨CellEvent.flatten_byPeriod events, hclosed, htally⟩

/-- **No update is lost, split or counted twice.**  At every point of every interleaving of calls,
the sums that were taken from a counter and the one it holds make up all that was added to it, modulo
`2 ^ 64`; and each period of a timer or a distribution summary, taken or not, is the account of its own
stretch of the accepted amounts.  Whoever took the contents of a cell was told their values. -/
theorem updates_counted_once {config : Config} {usable : config.Valid} {deeds : List Deed}
    {s : Shared} (hrun : Shared.Run (Shared.new config usable) deeds s) :
    (∀ m ∈ s.registry.meters, m.cell.AccountsFor (Deed.history m.id deeds)) ∧
    ∀ m reported, .measured m reported ∈ deeds → reported = m.measurements := by
  constructor
  · intro m hm
    obtain ⟨i, hi⟩ := List.mem_iff_getElem?.mp hm
    exact (hrun.follows.reached hi).accountsFor
  · intro m reported hmeasured
    exact hrun.reported_eq hmeasured

/-- Two callers race for the first use of an identity, one as a timer and one as a counter; a time too
long for a word of nanoseconds is recorded and taken, and a short one is recorded after that. -/
theorem updates_counted_once_after_race :
    ∃ deeds s taken reported, Shared.Run (Shared.new {} (by decide)) deeds s ∧
      s.registry.meters = [⟨Id.make "latency" [], .timer (Period.empty.record 5)⟩] ∧
      (∀ m ∈ s.registry.meters, m.cell.AccountsFor (Deed.history m.id deeds)) ∧
      taken = ⟨Id.make "latency" [], .timer (Period.empty.record 0xffffffffffffffff)⟩ ∧
      .measured taken reported ∈ deeds ∧ reported = taken.measurements := by
  have usable : Config.Valid {} := by decide
  let id := Id.make "latency" []
  let long : Duration := ⟨0xffffffffffffffff, 0⟩
  let short : Duration := ⟨0, 5⟩
  let r (c : Cell) : Registry := ⟨{}, usable, [⟨id, c⟩]⟩
  have hfound : ∀ c, (r c).find? id = some ⟨0, c.kind⟩ := by
    intro c
    simp [r, find?, Meter.kind]
  have hthere : (r (.timer .empty)).enter id .counter = (r (.timer .empty), ⟨0, .timer⟩) :=
    enter_of_find? .counter (hfound _)
  have hmissed : Shared.Run (.new {} usable) _
      ⟨⟨{}, usable, []⟩, [], [(id, .counter), (id, .timer)], []⟩ :=
    .step (.step .start (.miss .timer rfl)) (.miss .counter rfl)
  have hfirst : Shared.Run _ _ ⟨r (.timer .empty), [⟨0, .timer⟩], [(id, .counter)], []⟩ :=
    .step hmissed (.enter (show _ = [(id, .counter)] ++ (id, .timer) :: [] from rfl))
  have hloser := Shared.Step.enter (s := ⟨r (.timer .empty), [⟨0, .timer⟩], [(id, .counter)], []⟩)
    (show _ = [] ++ (id, .counter) :: [] from rfl)
  rw [hthere] at hloser
  have hsecond : Shared.Run _ _ ⟨r (.timer .empty), [⟨0, .timer⟩], [], []⟩ :=
    .step hfirst hloser
  have hrecorded : Shared.Run _ _
      ⟨r (.timer (Period.empty.record long.clampedNanos)), [⟨0, .timer⟩], [], [[0]]⟩ :=
    .step (.step hsecond (.update (u := .recordTime long) List.mem_cons_self rfl rfl))
      (.begin (by simp [r, Registry.modify]))
  let taken : Meter := ⟨id, .timer (Period.empty.record long.clampedNanos)⟩
  have htaken : Shared.Run _ (_ ++ [.measured taken taken.measurements])
      ⟨r (.timer .empty), [⟨0, .timer⟩], [], [[]]⟩ :=
    .step hrecorded (.measure (show _ = [] ++ [0] :: [] from rfl) rfl)
  have hlast : Shared.Run _ _
      ⟨r (.timer (Period.empty.record short.clampedNanos)), [⟨0, .timer⟩], [], [[]]⟩ :=
    .step htaken (Shared.Step.update (s := ⟨r (.timer .empty), [⟨0, .timer⟩], [], [[]]⟩)
      (h := ⟨0, .timer⟩) (u := .recordTime short) List.mem_cons_self rfl rfl)
  have hlong : long.clampedNanos = 0xffffffffffffffff := by decide
  have hshort : short.clampedNanos = 5 := by decide
  have hcounted := updates_counted_once hlast
  have htold : ∀ (deeds : List Deed) (d d' : Deed), d ∈ deeds ++ [d] ++ [d'] := by simp
  refine ⟨_, _, taken, _, hlast, ?_, hcounted.1, ?_, htold _ _ _, hcounted.2 _ _ (htold _ _ _)⟩
  · rw [← hshort]
  · simp only [taken, hlong]
    rfl

end DimensionalMetrics
