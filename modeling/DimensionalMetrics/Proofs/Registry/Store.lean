import DimensionalMetrics.Proofs.Meter.Content
import DimensionalMetrics.Proofs.Registry.Lookup
import DimensionalMetrics.Proofs.Tags.Lookup
import DimensionalMetrics.Simulation.Session
import Mathlib.Logic.Function.Basic

/-!
# A store of contents

Seen from outside, a registry is a map from keys to contents and nothing else.  `Store` is this map,
with the keys of the holds that were given out; `Client` is a registry with these holds.  Both take
the same operations.  A sweep tells the values of all meters in an order that is not for its caller to
know, so what is seen of it is the list of values for each key.

The lemmas say for each change to a registry what it does to the contents.
-/

namespace DimensionalMetrics

open Simulation (Access)

/-- What is done with a registry.  A hold that was given out is known by its number. -/
inductive Operation (ι : Type) where
  /-- Get the meter of an identity, creating it at first use. -/
  | get (id : ι) (access : Access) (kind : Kind)
  /-- Take the meter of an identity from the list of all meters. -/
  | pick (id : ι)
  | update (hold : Nat) (u : Update)
  | look (hold : Nat)
  | measure (hold : Nat)
  | measurements
  | meters

def Operation.map {ι κ : Type} (f : ι → κ) : Operation ι → Operation κ
  | get id access kind => .get (f id) access kind
  | pick id => .pick (f id)
  | update hold u => .update hold u
  | look hold => .look hold
  | measure hold => .measure hold
  | measurements => .measurements
  | meters => .meters

/-! ### The store -/

/-- What is seen of an operation. -/
inductive Answer where
  | held (key : Key) (kind : Kind)
  | failed (access : Access) (key : Key) (registered requested : Kind)
  | nothing
  | view (v : Cell.View)
  | measured (values : Key → List (Statistic × Binary64))
  | listed (kinds : Key → List Kind)

structure Store where
  cells : Key → Option Content
  /-- The keys of the holds that were given out. -/
  holds : List Key

namespace Store

def empty : Store := ⟨fun _ => none, []⟩

def put (s : Store) (key : Key) (c : Content) : Store :=
  { s with cells := Function.update s.cells key (some c) }

def hold (s : Store) (key : Key) (kind : Kind) : Store × Answer :=
  ({ s with holds := s.holds ++ [key] }, .held key kind)

/-- The key of a hold, and what is in its cell. -/
def held? (s : Store) (n : Nat) : Option (Key × Content) := do
  let key ← s.holds[n]?
  let c ← s.cells key
  return (key, c)

/-- An operation on one key touches its cell only.  An update of another kind of meter does nothing,
as there is no such operation on the hold. -/
def perform (s : Store) : Operation Key → Store × Answer
  | .get key access kind =>
    match s.cells key with
    | none => (s.put key (.fresh kind)).hold key kind
    | some c => if c.kind = kind then s.hold key kind else (s, .failed access key c.kind kind)
  | .pick key =>
    match s.cells key with
    | none => (s, .nothing)
    | some c => s.hold key c.kind
  | .update n u =>
    match s.held? n with
    | none => (s, .nothing)
    | some (key, c) => (if u.kind = c.kind then s.put key (c.update u) else s, .nothing)
  | .look n =>
    match s.held? n with
    | none => (s, .nothing)
    | some (_, c) => (s, .view c.view)
  | .measure n =>
    match s.held? n with
    | none => (s, .nothing)
    | some (key, c) =>
      (s.put key c.reset, .measured fun key' => if key' = key then c.values else [])
  | .measurements =>
    ({ s with cells := fun key => (s.cells key).map .reset },
      .measured fun key => ((s.cells key).map Content.values).getD [])
  | .meters => (s, .listed fun key => ((s.cells key).map Content.kind).toList)

def after (s : Store) : List (Operation Key) → Store
  | [] => s
  | op :: rest => (s.perform op).1.after rest

def answers (s : Store) : List (Operation Key) → List Answer
  | [] => []
  | op :: rest => (s.perform op).2 :: (s.perform op).1.answers rest

end Store

/-! ### The registry -/

/-- What an operation on a registry gives. -/
inductive Response where
  | held (id : Id) (kind : Kind)
  /-- An error, or a failure with the text of the error. -/
  | failed (access : Access) (e : Error)
  | nothing
  | view (v : Cell.View)
  | measured (ms : List Measurement)
  | listed (ms : List Meter)

/-- The values of one key among measurements, in order. -/
def valuesOf (ms : List Measurement) (key : Key) : List (Statistic × Binary64) :=
  (ms.filter (·.id.key = key)).map fun m => (m.statistic, m.value)

theorem valuesOf_measurements (m : Meter) (key : Key) :
    valuesOf m.measurements key = if m.id.key = key then m.cell.content.values else [] := by
  have hpred : (fun x : Measurement => decide (x.id.key = key)) ∘
      (fun v : Statistic × Binary64 => (⟨m.id, v.1, v.2⟩ : Measurement)) =
        fun _ => decide (m.id.key = key) := rfl
  rw [valuesOf, Meter.measurements, Cell.values_content, List.filter_map, hpred]
  by_cases hkey : m.id.key = key
  · have hback : (fun x : Measurement => (x.statistic, x.value)) ∘
        (fun v : Statistic × Binary64 => (⟨m.id, v.1, v.2⟩ : Measurement)) = id := rfl
    rw [if_pos hkey, decide_eq_true hkey, List.filter_true, List.map_map, hback, List.map_id]
  · rw [if_neg hkey, decide_eq_false hkey, List.filter_false]
    rfl

theorem valuesOf_flatMap (ms : List Meter) (key : Key) :
    valuesOf (ms.flatMap Meter.measurements) key =
      (ms.filter (·.id.key = key)).flatMap fun m => m.cell.content.values := by
  induction ms with
  | nil => rfl
  | cons m rest ih =>
    have hsplit : valuesOf ((m :: rest).flatMap Meter.measurements) key =
        valuesOf m.measurements key ++ valuesOf (rest.flatMap Meter.measurements) key := by
      simp only [valuesOf, List.flatMap_cons, List.filter_append, List.map_append]
    rw [hsplit, valuesOf_measurements, ih]
    by_cases hkey : m.id.key = key
    · have hfilter : (m :: rest).filter (·.id.key = key) = m :: rest.filter (·.id.key = key) :=
        List.filter_cons_of_pos (decide_eq_true hkey)
      rw [if_pos hkey, hfilter, List.flatMap_cons]
    · have hfilter : (m :: rest).filter (·.id.key = key) = rest.filter (·.id.key = key) :=
        List.filter_cons_of_neg (by simpa using hkey)
      rw [if_neg hkey, hfilter, List.nil_append]

/-- What is seen of a response.  A call for a meter fails in one way only. -/
def Response.seen : Response → Answer
  | held id kind => .held id.key kind
  | failed access (.kindMismatch id registered requested) =>
    .failed access id.key registered requested
  | failed _ _ => .nothing
  | nothing => .nothing
  | view v => .view v
  | measured ms => .measured (valuesOf ms)
  | listed ms => .listed fun key => (ms.filter (·.id.key = key)).map Meter.kind

/-- A registry with the holds that were given out. -/
structure Client where
  registry : Registry
  holds : List Registry.Handle

namespace Client

def new (config : Config) (usable : config.Valid) : Client := ⟨⟨config, usable, []⟩, []⟩

/-- Gives a hold out; what it tells of itself is told by its meter. -/
def hold (c : Client) (h : Registry.Handle) : Client × Response :=
  match c.registry.meters[h.position]? with
  | none => (c, .nothing)
  | some m => ({ c with holds := c.holds ++ [h] }, .held m.id m.kind)

def perform (c : Client) : Operation Id → Client × Response
  | .get id access kind =>
    match c.registry.register id kind with
    | (r, .error e) => ({ c with registry := r }, .failed access e)
    | (r, .ok h) => Client.hold { c with registry := r } h
  | .pick id =>
    match c.registry.find? id with
    | none => (c, .nothing)
    | some h => c.hold h
  | .update n u =>
    match c.holds[n]? with
    | none => (c, .nothing)
    | some h =>
      if u.kind = h.kind then
        ({ c with registry := c.registry.modify h.position (·.update u) }, .nothing)
      else (c, .nothing)
  | .look n =>
    match c.holds[n]? with
    | none => (c, .nothing)
    | some h => (c, .view (c.registry.viewAt h))
  | .measure n =>
    match c.holds[n]? with
    | none => (c, .nothing)
    | some h =>
      ({ c with registry := (c.registry.measureAt h.position).1 },
        .measured (c.registry.measureAt h.position).2)
  | .measurements => ({ c with registry := c.registry.sweep.1 }, .measured c.registry.sweep.2)
  | .meters => (c, .listed c.registry.visited)

def after (c : Client) : List (Operation Id) → Client
  | [] => c
  | op :: rest => (c.perform op).1.after rest

def responses (c : Client) : List (Operation Id) → List Response
  | [] => []
  | op :: rest => (c.perform op).2 :: (c.perform op).1.responses rest

end Client

/-! ### The calls of a session

A session gets a meter, updates it and looks at it in one call, and measures the meter of an
identity in another. -/

namespace Client

open Registry

theorem after_get_update (r : Registry) (id : Id) (access : Access) (u : Update) :
    let c := after ⟨r, []⟩ [.get id access u.kind, .update 0 u]
    c.registry = (r.apply id u).1 ∧
      (c.perform (.look 0)).2 = match (r.apply id u).2 with
        | .error _ => .nothing
        | .ok v => .view v := by
  intro c
  rcases register_cases r id u.kind with ⟨g, hfound, hregister⟩ | ⟨hnone, hregister⟩
  · obtain ⟨m, hm, -, -⟩ := find?_spec hfound
    by_cases hk : g.kind = u.kind
    · have hc : c = ⟨r.modify g.position (·.update u), [g]⟩ := by
        simp [c, after, perform, hregister, Handle.expect, hk, hold, hm]
      have happly : r.apply id u = (c.registry, .ok (c.registry.viewAt g)) := by
        simp [Registry.apply, hregister, Handle.expect, hk, hc]
      rw [happly]
      exact ⟨rfl, by simp [perform, hc]⟩
    · have hc : c = ⟨r, []⟩ := by simp [c, after, perform, hregister, Handle.expect, hk]
      have happly : r.apply id u = (r, .error (.kindMismatch id g.kind u.kind)) := by
        simp [Registry.apply, hregister, Handle.expect, hk]
      rw [happly, hc]
      exact ⟨rfl, by simp [perform]⟩
  · have hc : c = ⟨({ r with meters := r.meters ++ [.fresh id u.kind] } : Registry).modify
        r.meters.length (·.update u), [⟨r.meters.length, u.kind⟩]⟩ := by
      simp [c, after, perform, hregister, hold]
    have happly : r.apply id u =
        (c.registry, .ok (c.registry.viewAt ⟨r.meters.length, u.kind⟩)) := by
      simp [Registry.apply, hregister, hc]
    rw [happly]
    exact ⟨rfl, by simp [perform, hc]⟩

theorem after_pick_measure (r : Registry) (id : Id) :
    let c := after ⟨r, []⟩ [.pick id]
    (c.perform (.measure 0)).1.registry = (r.measure id).1 ∧
      (c.perform (.measure 0)).2 = match (r.measure id).2 with
        | none => .nothing
        | some ms => .measured ms := by
  intro c
  cases hfound : r.find? id with
  | none =>
    have hc : c = ⟨r, []⟩ := by simp [c, after, perform, hfound]
    simp [hc, perform, Registry.measure, hfound]
  | some g =>
    obtain ⟨m, hm, -, -⟩ := find?_spec hfound
    have hc : c = ⟨r, [g]⟩ := by simp [c, after, perform, hfound, hold, hm]
    simp [hc, perform, Registry.measure, hfound]

end Client

/-! ### The contents of a registry -/

namespace Registry

/-- What is in the cell of a key, if there is a meter for it. -/
def contents (r : Registry) (key : Key) : Option Content :=
  (r.meters.find? (·.id.key = key)).map (·.cell.content)

theorem find?_key_eq_none_iff {r : Registry} {key : Key} :
    r.meters.find? (·.id.key = key) = none ↔ ∀ m ∈ r.meters, m.id.key ≠ key := by
  rw [List.find?_eq_none]
  simp only [decide_eq_true_eq, ne_eq]

theorem Distinct.find?_key_eq_some_iff {r : Registry} (hd : r.Distinct) {key : Key} {m : Meter} :
    r.meters.find? (·.id.key = key) = some m ↔ m ∈ r.meters ∧ m.id.key = key := by
  constructor
  · intro hfind
    exact ⟨List.mem_of_find?_eq_some hfind, by simpa using List.find?_some hfind⟩
  · rintro ⟨hm, hkey⟩
    cases hfind : r.meters.find? (·.id.key = key) with
    | none => exact absurd hkey (find?_key_eq_none_iff.mp hfind m hm)
    | some a =>
      have ha : a.id.key = key := by simpa using List.find?_some hfind
      have hid : a.id = m.id := Id.key_inj.mp (ha.trans hkey.symm)
      rw [List.inj_on_of_nodup_map hd (List.mem_of_find?_eq_some hfind) hm hid]

theorem contents_eq_none_iff {r : Registry} {key : Key} :
    r.contents key = none ↔ ∀ m ∈ r.meters, m.id.key ≠ key := by
  rw [contents, Option.map_eq_none_iff, find?_key_eq_none_iff]

theorem Distinct.contents_eq_some_iff {r : Registry} (hd : r.Distinct) {key : Key} {c : Content} :
    r.contents key = some c ↔ ∃ m ∈ r.meters, m.id.key = key ∧ m.cell.content = c := by
  simp only [contents, Option.map_eq_some_iff, hd.find?_key_eq_some_iff, and_assoc]

theorem Distinct.contents_of_getElem? {r : Registry} (hd : r.Distinct) {i : Nat} {m : Meter}
    (hm : r.meters[i]? = some m) : r.contents m.id.key = some m.cell.content :=
  hd.contents_eq_some_iff.mpr ⟨m, List.mem_of_getElem? hm, rfl, rfl⟩

/-- A meter that is new changes the contents of its own key. -/
theorem contents_append {r : Registry} {id : Id} (hnew : r.contents id.key = none) (kind : Kind) :
    ({ r with meters := r.meters ++ [.fresh id kind] } : Registry).contents =
      Function.update r.contents id.key (some (.fresh kind)) := by
  funext key
  rw [Function.update_apply, contents, List.find?_append, Option.map_or]
  by_cases hkey : key = id.key
  · have hnone : (r.meters.find? (·.id.key = key)).map (·.cell.content) = none := by
      rw [hkey]
      exact hnew
    rw [if_pos hkey, hnone, Option.none_or]
    simp [Meter.fresh, hkey]
  · have hother : ¬ (Meter.fresh id kind).id.key = key := Ne.symm hkey
    rw [if_neg hkey, List.find?_singleton, if_neg (by simpa using hother), Option.map_none,
      Option.or_none]
    rfl

/-- A change to one meter changes the contents of its own key. -/
theorem Distinct.contents_modify {r : Registry} (hd : r.Distinct) {i : Nat} {m : Meter}
    (hm : r.meters[i]? = some m) {f : Meter → Meter} (hf : ∀ a, (f a).id = a.id) :
    (r.modify i f).contents = Function.update r.contents m.id.key (some (f m).cell.content) := by
  have hd' : (r.modify i f).Distinct := hd.modify i hf
  funext key
  rw [Function.update_apply]
  by_cases hkey : key = m.id.key
  · have hchanged : (r.modify i f).meters[i]? = some (f m) := by
      simp [Registry.modify, hm]
    have hcontents := hd'.contents_of_getElem? hchanged
    rw [hf] at hcontents
    rw [if_pos hkey, hkey, hcontents]
  · -- Under another key there was and is another meter, which stayed as it was.
    rw [if_neg hkey]
    apply Option.ext
    intro c
    rw [hd'.contents_eq_some_iff, hd.contents_eq_some_iff]
    constructor
    · rintro ⟨b, hb, hbkey, hc⟩
      obtain ⟨j, hj⟩ := List.mem_iff_getElem?.mp hb
      obtain ⟨a, ha, rfl⟩ := getElem?_modify f hj
      by_cases hij : i = j
      · subst hij
        obtain rfl : a = m := Option.some.inj (ha.symm.trans hm)
        rw [if_pos rfl, hf] at hbkey
        exact absurd hbkey.symm hkey
      · rw [if_neg hij] at hbkey hc
        exact ⟨a, List.mem_of_getElem? ha, hbkey, hc⟩
    · rintro ⟨a, ha, hakey, hc⟩
      obtain ⟨j, hj⟩ := List.mem_iff_getElem?.mp ha
      have hij : i ≠ j := by
        rintro rfl
        obtain rfl : a = m := Option.some.inj (hj.symm.trans hm)
        exact hkey hakey.symm
      have hkept : (r.modify i f).meters[j]? = some a := by
        simp [Registry.modify, hj, hij]
      exact ⟨a, List.mem_of_getElem? hkept, hakey, hc⟩

theorem contents_sweep (r : Registry) :
    r.sweep.1.contents = fun key => (r.contents key).map .reset := by
  funext key
  have hsame : (fun m : Meter => decide (m.id.key = key)) ∘ Meter.reset =
      fun m => decide (m.id.key = key) := rfl
  have hreset : (fun m : Meter => m.reset.cell.content) = fun m => m.cell.content.reset :=
    funext fun m => m.cell.content_reset
  simp only [contents, sweep_eq, List.find?_map, hsame, Option.map_map, Function.comp_def, hreset]

/-! ### What is seen of a sweep -/

/-- Every key is visited once at most, in every order. -/
theorem Distinct.filter_meters {r : Registry} (hd : r.Distinct) (o : r.Order) (key : Key) :
    o.meters.filter (·.id.key = key) = (r.meters.find? (·.id.key = key)).toList := by
  have hperm : (o.meters.filter (·.id.key = key)).Perm (r.meters.filter (·.id.key = key)) :=
    o.meters_perm.filter _
  cases hfind : r.meters.find? (·.id.key = key) with
  | none =>
    have hnil : r.meters.filter (·.id.key = key) = [] := by
      rw [List.filter_eq_nil_iff]
      exact fun m hm => by simpa using find?_key_eq_none_iff.mp hfind m hm
    rw [hnil] at hperm
    exact hperm.eq_nil
  | some m =>
    obtain ⟨hkey, before, after, hmeters, hbefore⟩ := List.find?_eq_some_iff_append.mp hfind
    -- After `m` there is no meter with its key, because there is none with its identity.
    have hafter : ∀ a ∈ after, ¬ a.id.key = key := by
      intro a ha hakey
      have hnodup : (before.map Meter.id ++ m.id :: after.map Meter.id).Nodup := by
        rw [← List.map_cons, ← List.map_append, ← hmeters]
        exact hd
      have hnotin := (List.nodup_cons.mp (List.nodup_append.mp hnodup).2.1).1
      have hid : a.id = m.id := Id.key_inj.mp (hakey.trans (of_decide_eq_true hkey).symm)
      exact hnotin (List.mem_map.mpr ⟨a, ha, hid⟩)
    have hone : r.meters.filter (·.id.key = key) = [m] := by
      have hnone : before.filter (·.id.key = key) = [] :=
        List.filter_eq_nil_iff.mpr fun a ha => by simpa using hbefore a ha
      have hnone' : after.filter (·.id.key = key) = [] :=
        List.filter_eq_nil_iff.mpr fun a ha => by simpa using hafter a ha
      have hhead : (m :: after).filter (·.id.key = key) = m :: after.filter (·.id.key = key) :=
        List.filter_cons_of_pos hkey
      rw [hmeters, List.filter_append, hnone, hhead, hnone', List.nil_append]
    rw [hone] at hperm
    exact List.perm_singleton.mp hperm

/-- A sweep reports the values of each key once. -/
theorem Distinct.valuesOf_sweepAlong {r : Registry} (hd : r.Distinct) (o : r.Order) :
    valuesOf (r.sweepAlong o).2 = fun key => ((r.contents key).map Content.values).getD [] := by
  funext key
  rw [sweepAlong_eq, valuesOf_flatMap, hd.filter_meters, contents]
  cases r.meters.find? (·.id.key = key) with
  | none => rfl
  | some m => exact List.flatMap_singleton _ m

/-- The list of all meters has the meter of each key once. -/
theorem Distinct.kinds_visited {r : Registry} (hd : r.Distinct) (key : Key) :
    (r.visited.filter (·.id.key = key)).map Meter.kind =
      ((r.contents key).map Content.kind).toList := by
  rw [visited, hd.filter_meters, contents]
  cases r.meters.find? (·.id.key = key) with
  | none => rfl
  | some m => exact congrArg (fun k => [k]) m.cell.kind_content.symm

/-- A sweep does not change the order for those who name none. -/
theorem visited_sweep (r : Registry) : r.sweep.1.visited = r.visited.map Meter.reset := by
  have hsorted : (r.sweep.1.ownOrder).positions = r.ownOrder.positions := by
    let key : Meter × Nat → Nat := fun p => p.1.id.visitKey
    have hmap : (r.meters.zipIdx.mergeSort fun a b => key a ≤ key b).map (Prod.map Meter.reset id) =
        (r.meters.zipIdx.map (Prod.map Meter.reset id)).mergeSort fun a b => key a ≤ key b :=
      List.map_mergeSort fun _ _ _ _ => rfl
    rw [sweep_eq]
    simp only [ownOrder, List.zipIdx_map]
    rw [← hmap, List.map_map]
    rfl
  have hfound : ∀ i : Nat, r.sweep.1.meters[i]? = (r.meters[i]?).map Meter.reset := by
    intro i
    rw [sweep_eq, List.getElem?_map]
  simp only [visited, Order.meters, hsorted, hfound, List.map_filterMap]

/-- A sweep right after another one reports what that one did, with zero for every value and without
the gauges. -/
theorem sweep_sweep (r : Registry) :
    r.sweep.1.sweep.2 =
      (r.sweep.2.filter (·.statistic ≠ .gauge)).map fun m => { m with value := .zero } := by
  have htwice : r.sweep.1.sweep.2 = r.sweep.1.visited.flatMap Meter.measurements :=
    congrArg Prod.snd (sweep_eq r.sweep.1)
  rw [htwice, visited_sweep, sweep_eq, List.filter_flatMap, List.map_flatMap, List.flatMap_map]
  apply List.flatMap_congr
  intro m _
  exact m.measurements_reset

end Registry

end DimensionalMetrics
