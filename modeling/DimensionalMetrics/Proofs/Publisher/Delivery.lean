import DimensionalMetrics.Proofs.Registry.Sweeps
import DimensionalMetrics.Proofs.Wire.Batches

/-!
# What one publish hands over

A publish cuts the records of a sweep into batches and hands over each of them once, in order, whatever
becomes of the ones before.  The order of the records is that in which the meters were visited, and
nothing is assumed of it.  The answers decide only what is said: a remark after each failure, and at the
end how many records arrived.  If the answers run out the publish was abandoned, and then the requests that
were made are the first ones of the same list.
-/

namespace DimensionalMetrics

/-! ### Requests and remarks -/

/-- The request of an event, if it is one. -/
def Event.call? : Event → Option Call
  | .call c => some c
  | .notice _ => none

theorem filterMap_call?_notices (ns : List Notice) : (ns.map Event.notice).filterMap Event.call? = [] := by
  induction ns with
  | nil => rfl
  | cons n ns ih => exact ih

/-- How many records arrived of batches that have so many. -/
def arrived : List Nat → List Outcome → Nat
  | size :: sizes, o :: outcomes => (if o = .accepted then size else 0) + arrived sizes outcomes
  | _, _ => 0

namespace Delivery

variable {d : Delivery} {payload : Payload} {rest : List Payload}

theorem run_of_nil (h : d.waiting = []) (outcomes : List Outcome) :
    d.run outcomes = [.notice d.summary] := by
  cases outcomes <;> simp only [run, h]

theorem run_pause (h : d.waiting = payload :: rest) : d.run [] = [.call (d.call payload)] := by
  simp only [run, h]

theorem run_cons (h : d.waiting = payload :: rest) (o : Outcome) (outcomes : List Outcome) :
    d.run (o :: outcomes) = .call (d.call payload) ::
      ((d.remarks payload o).map .notice ++ (d.settle payload rest o).run outcomes) := by
  simp only [run, h]

@[simp] theorem waiting_settle (d : Delivery) (payload : Payload) (rest : List Payload) (o : Outcome) :
    (d.settle payload rest o).waiting = rest := by
  cases o <;> rfl

@[simp] theorem total_settle (d : Delivery) (payload : Payload) (rest : List Payload) (o : Outcome) :
    (d.settle payload rest o).total = d.total := by
  cases o <;> rfl

theorem call_settle (d : Delivery) (payload : Payload) (rest : List Payload) (o : Outcome) :
    (d.settle payload rest o).call = d.call := by
  cases o <;> rfl

theorem sent_settle (d : Delivery) (payload : Payload) (rest : List Payload) (o : Outcome) :
    (d.settle payload rest o).sent = d.sent + if o = .accepted then payload.size else 0 := by
  cases o <;> rfl

/-- The requests are those of the waiting payloads, one for each answer and one more. -/
theorem filterMap_call?_run (d : Delivery) (outcomes : List Outcome) :
    (d.run outcomes).filterMap Event.call? = (d.waiting.take (outcomes.length + 1)).map d.call := by
  induction outcomes generalizing d with
  | nil =>
    cases hw : d.waiting with
    | nil =>
      rw [run_of_nil hw]
      rfl
    | cons payload rest =>
      rw [run_pause hw]
      rfl
  | cons o outcomes ih =>
    cases hw : d.waiting with
    | nil =>
      rw [run_of_nil hw]
      rfl
    | cons payload rest =>
      have hcall : Event.call? (.call (d.call payload)) = some (d.call payload) := rfl
      rw [run_cons hw, List.filterMap_cons_some hcall, List.filterMap_append, filterMap_call?_notices,
        List.nil_append, ih, waiting_settle, call_settle, List.length_cons, List.take_succ_cons,
        List.map_cons]

/-- When every payload was answered, the last thing said is how many records arrived. -/
theorem getLast?_run (d : Delivery) (outcomes : List Outcome)
    (h : d.waiting.length ≤ outcomes.length) :
    (d.run outcomes).getLast? =
      some (.notice (.published (d.sent + arrived (d.waiting.map Payload.size) outcomes) d.total)) := by
  induction outcomes generalizing d with
  | nil =>
    have hw : d.waiting = [] := List.eq_nil_of_length_eq_zero (Nat.le_zero.mp h)
    rw [run_of_nil hw, hw]
    rfl
  | cons o outcomes ih =>
    cases hw : d.waiting with
    | nil =>
      rw [run_of_nil hw]
      rfl
    | cons payload rest =>
      rw [hw, List.length_cons, List.length_cons] at h
      have hrest := ih (d.settle payload rest o) (by rw [waiting_settle]; omega)
      rw [waiting_settle, total_settle, sent_settle] at hrest
      rw [run_cons hw, List.getLast?_cons, List.getLast?_append, hrest, List.map_cons, arrived,
        ← Nat.add_assoc]
      rfl

end Delivery

/-! ### One publish -/

namespace Registry

variable {r : Registry} {permission : Option Permission}

theorem publishAlong_eq (o : r.Order) (huri : r.config.uri ≠ "")
    (hpermission : permission.getD .granted = .granted) (outcomes : List Outcome) :
    r.publishAlong o permission outcomes =
      ({ r with meters := r.meters.map Meter.reset },
        .notice (.swept r.meters.length (r.sweepAlong o).2.length) ::
          (Delivery.ofMeasurements r.config (r.sweepAlong o).2).run outcomes) := by
  simp only [publishAlong, beginPublish, hpermission, publishFreely, measureAll, if_neg huri,
    sweepAlong_fst, sweep_eq]
  rfl

/-- What a publish hands over that visits the meters in this order and gets these answers, in these
batches. -/
structure HandsOver (r : Registry) (o : r.Order) (outcomes : List Outcome)
    (bs : List (List Record)) (published : Registry × List Event) : Prop where
  /-- Every meter is measured once, in order, with what it held at first. -/
  measured : o.meters.Perm r.meters ∧ (r.sweepAlong o).2 = o.meters.flatMap Meter.measurements
  records : bs.flatten = ((r.sweepAlong o).2.filter Measurement.isWorthSending).map
    (.ofMeasurement r.config.commonTags)
  /-- As many batches as it takes, rounded up. -/
  count : bs.length = (bs.flatten.length + r.config.batchSize - 1) / r.config.batchSize
  nonempty : ∀ b ∈ bs, 1 ≤ b.length
  bounded : ∀ b ∈ bs, b.length ≤ r.config.batchSize
  full : ∀ b ∈ bs.dropLast, b.length = r.config.batchSize
  /-- The requests, with what their bodies are read as: one for each answer, and one that waits for
  its answer if there is a batch left. -/
  requests : (published.2.filterMap Event.call?).map
      (fun c => (c.uri, c.timeout, Payload.read? c.payload.text)) =
    (bs.take (outcomes.length + 1)).map fun b => (r.config.uri, r.config.timeout, some b)
  /-- Once every batch was answered, the records that arrived are counted. -/
  total : bs.length ≤ outcomes.length → published.2.getLast? =
    some (.notice (.published (arrived (bs.map List.length) outcomes) bs.flatten.length))
  config : published.1.config = r.config
  /-- The meters are still there, each at its place, and hold what a new one holds. -/
  meters : published.1.meters.map (fun m => (m.id, m.kind)) = r.meters.map fun m => (m.id, m.kind)
  fresh : ∀ m ∈ published.1.meters, m.cell = .fresh m.kind

theorem isFinite_of_mem_records (config : Config) (ms : List Measurement) {rec : Record}
    (h : rec ∈ Delivery.records config ms) : rec.value.isFinite = true := by
  obtain ⟨m, hm, rfl⟩ := List.mem_map.mp h
  have hworth := (List.mem_filter.mp hm).2
  simp only [Measurement.isWorthSending, Bool.and_eq_true] at hworth
  exact hworth.1

/-- The body of a batch is read as the batch. -/
theorem read?_of_mem_chunks {config : Config} {ms : List Measurement} {b : List Record}
    (hb : b ∈ chunks config.batchSize (Delivery.records config ms))
    (hstrings : (stringsOfRecords b).toFinset.card ≤ 2 ^ 32) :
    Payload.read? (Payload.ofRecords b).text = some b := by
  refine Payload.read?_text_ofRecords (fun rec hrec => ?_) hstrings
  apply isFinite_of_mem_records config ms
  rw [← flatten_chunks config.batchSize (Delivery.records config ms)]
  exact List.mem_flatten_of_mem hb hrec

theorem filterMap_call?_publishAlong (o : r.Order) (huri : r.config.uri ≠ "")
    (hpermission : permission.getD .granted = .granted) (outcomes : List Outcome) :
    (r.publishAlong o permission outcomes).2.filterMap Event.call? =
      ((chunks r.config.batchSize (Delivery.records r.config (r.sweepAlong o).2)).take
        (outcomes.length + 1)).map fun b => ⟨r.config.uri, r.config.timeout, .ofRecords b⟩ := by
  have hnotice : ∀ n, Event.call? (.notice n) = none := fun _ => rfl
  rw [publishAlong_eq o huri hpermission, List.filterMap_cons_none (hnotice _),
    Delivery.filterMap_call?_run]
  simp only [Delivery.ofMeasurements, batches, ← List.map_take, List.map_map]
  rfl

theorem getLast?_publishAlong (o : r.Order) (huri : r.config.uri ≠ "")
    (hpermission : permission.getD .granted = .granted) {outcomes : List Outcome}
    {bs : List (List Record)}
    (hbs : bs = chunks r.config.batchSize (Delivery.records r.config (r.sweepAlong o).2))
    (hall : bs.length ≤ outcomes.length) :
    (r.publishAlong o permission outcomes).2.getLast? =
      some (.notice (.published (arrived (bs.map List.length) outcomes) bs.flatten.length)) := by
  have hwaiting : (Delivery.ofMeasurements r.config (r.sweepAlong o).2).waiting =
      bs.map Payload.ofRecords := by
    rw [hbs]
    rfl
  have hsizes : (bs.map Payload.ofRecords).map Payload.size = bs.map List.length := by
    rw [List.map_map]
    refine List.map_congr_left fun b _ => ?_
    exact List.length_map _
  have hlast := Delivery.getLast?_run (Delivery.ofMeasurements r.config (r.sweepAlong o).2)
    outcomes (by rwa [hwaiting, List.length_map])
  rw [hwaiting, hsizes] at hlast
  rw [publishAlong_eq o huri hpermission, List.getLast?_cons, hlast, hbs, flatten_chunks]
  simp [Delivery.ofMeasurements]

/-- **Every batch is handed over once, in order, whatever the answers are**, and whatever the order in
which the meters are visited. -/
theorem publish_hands_over (r : Registry) (o : r.Order) (permission : Option Permission)
    (outcomes : List Outcome) (huri : r.config.uri ≠ "")
    (hpermission : permission = none ∨ permission = some .granted)
    (hstrings : ∀ b ∈ chunks r.config.batchSize (Delivery.records r.config (r.sweepAlong o).2),
      (stringsOfRecords b).toFinset.card ≤ 2 ^ 32) :
    HandsOver r o outcomes
      (chunks r.config.batchSize (Delivery.records r.config (r.sweepAlong o).2))
      (r.publishAlong o permission outcomes) := by
  have hgranted : permission.getD .granted = .granted := by
    rcases hpermission with rfl | rfl <;> rfl
  have hsize : 1 ≤ r.config.batchSize := r.usable.batchSize_pos
  have hleft : (r.publishAlong o permission outcomes).1 =
      { r with meters := r.meters.map Meter.reset } := by rw [publishAlong_eq o huri hgranted]
  constructor
  case measured =>
    refine ⟨o.meters_perm, ?_⟩
    rw [sweepAlong_eq]
  case records => exact flatten_chunks _ _
  case count =>
    rw [flatten_chunks]
    exact length_chunks hsize _
  case nonempty =>
    intro b hb
    exact (length_of_mem_chunks hb).1
  case bounded =>
    intro b hb
    have hlength := (length_of_mem_chunks hb).2
    rwa [Nat.max_eq_left hsize] at hlength
  case full =>
    intro b hb
    exact length_of_mem_dropLast_chunks hsize hb
  case requests =>
    rw [filterMap_call?_publishAlong o huri hgranted, List.map_map]
    refine List.map_congr_left fun b hb => ?_
    have hmem := List.mem_of_mem_take hb
    simp only [Function.comp_apply, read?_of_mem_chunks hmem (hstrings b hmem)]
  case total =>
    intro hall
    exact getLast?_publishAlong o huri hgranted rfl hall
  case config => rw [hleft]
  case meters =>
    rw [hleft, List.map_map]
    refine List.map_congr_left fun m _ => ?_
    exact congrArg (m.id, ·) (Cell.kind_reset m.cell)
  case fresh =>
    intro m hm
    rw [hleft] at hm
    obtain ⟨m₀, -, rfl⟩ := List.mem_map.mp hm
    exact congrArg Cell.fresh (Cell.kind_reset m₀.cell).symm

/-- Five records in batches of three, of which the first one fails; the meter that was entered last is
visited first. -/
theorem timer_handed_over_after_failure :
    let r : Registry := ⟨{ uri := "unix:/run/backend", batchSize := 3 }, by decide,
      [⟨.ofTags "latency" .empty, .timer (Period.empty.record 5)⟩,
        ⟨.ofTags "level" .empty, .gauge ⟨0x400c000000000000⟩⟩]⟩
    let o : r.Order := ⟨[1, 0], by decide⟩
    let outcomes : List Outcome := [.failed (.transport "connection closed"), .accepted]
    let bs := chunks 3 (Delivery.records r.config (r.sweepAlong o).2)
    bs.map List.length = [3, 2] ∧ arrived (bs.map List.length) outcomes = 2 ∧
      HandsOver r o outcomes bs (r.publishAlong o none outcomes) := by
  intro r o outcomes bs
  have hrecords : Delivery.records r.config (r.sweepAlong o).2 =
      (r.sweepAlong o).2.map (.ofMeasurement .empty) := by
    rw [Delivery.records, List.filter_eq_self.mpr (by decide)]
  have hlengths : bs.map List.length = [3, 2] := by
    have hcut : ∀ a b c d e : Record, (chunks 3 [a, b, c, d, e]).map List.length = [3, 2] := by
      intro a b c d e
      simp [chunks]
    simp only [bs]
    rw [hrecords]
    exact hcut _ _ _ _ _
  refine ⟨hlengths, ?_, publish_hands_over r o none outcomes (by decide) (.inl rfl) ?_⟩
  · rw [hlengths]
    rfl
  · intro b hb
    refine (card_strings_of_mem_chunks hb).trans ?_
    rw [hrecords]
    simp only [stringsOfRecords, Record.ofMeasurement, Tags.empty_overlay, List.flatMap_map]
    decide

end Registry

end DimensionalMetrics
