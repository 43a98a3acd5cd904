import DimensionalMetrics.Proofs.Registry.Store
import Mathlib.Data.List.Forall2

/-!
# A registry is a store of contents

A registry represents a store if each key has the same contents in both and each hold stands for its
key.  Every operation keeps this and is answered alike, so a whole run is, whatever the operations
are.  All that the store shows at a glance then holds of the registry: that an operation on one
identity leaves the others alone, and that it does not matter how an identity is spelled.
-/

namespace DimensionalMetrics

open Registry

/-! ### The relation -/

/-- The hold is on the meter of the key. -/
def StandsFor (r : Registry) (h : Handle) (key : Key) : Prop :=
  ∃ m, r.meters[h.position]? = some m ∧ m.id.key = key ∧ m.kind = h.kind

theorem StandsFor.keep {r r' : Registry} (hkeeps : r.Keeps r') {h : Handle} {key : Key}
    (hs : StandsFor r h key) : StandsFor r' h key := by
  obtain ⟨m, hm, hkey, hkind⟩ := hs
  obtain ⟨m', hm', hid', hkind'⟩ := hkeeps hm
  exact ⟨m', hm', by rw [hid', hkey], hkind'.trans hkind⟩

theorem getElem?_of_forall₂ {α β : Type} {R : α → β → Prop} {l : List α} {l' : List β}
    (h : List.Forall₂ R l l') (n : Nat) :
    (l[n]? = none ∧ l'[n]? = none) ∨ ∃ a b, l[n]? = some a ∧ l'[n]? = some b ∧ R a b := by
  induction h generalizing n with
  | nil => exact .inl ⟨rfl, rfl⟩
  | @cons a b l l' hab _ ih =>
    cases n with
    | zero => exact .inr ⟨a, b, rfl, rfl, hab⟩
    | succ n => simpa only [List.getElem?_cons_succ] using ih n

structure Represents (c : Client) (s : Store) : Prop where
  distinct : c.registry.Distinct
  cells : s.cells = c.registry.contents
  holds : List.Forall₂ (StandsFor c.registry) c.holds s.holds

/-- A client and a store after an operation that is answered alike. -/
def Matches (p : Client × Response) (q : Store × Answer) : Prop :=
  Represents p.1 q.1 ∧ p.2.seen = q.2

namespace Represents

variable {c : Client} {s : Store}

theorem new (config : Config) (usable : config.Valid) : Represents (.new config usable) .empty where
  distinct := List.nodup_nil
  cells := rfl
  holds := .nil

theorem cells_of_getElem? (h : Represents c s) {i : Nat} {m : Meter}
    (hm : c.registry.meters[i]? = some m) : s.cells m.id.key = some m.cell.content := by
  rw [h.cells]
  exact h.distinct.contents_of_getElem? hm

theorem cells_of_find?_eq_none (h : Represents c s) {id : Id} (hnone : c.registry.find? id = none) :
    s.cells id.key = none := by
  rw [h.cells, contents_eq_none_iff]
  intro m hm hkey
  exact find?_eq_none_iff.mp hnone m hm (Id.key_inj.mp hkey)

/-- What is known of a hold by its number: neither side gave it out, or both did, for one meter. -/
theorem held?_cases (h : Represents c s) (n : Nat) :
    (c.holds[n]? = none ∧ s.holds[n]? = none ∧ s.held? n = none) ∨
    ∃ g m, c.holds[n]? = some g ∧ c.registry.meters[g.position]? = some m ∧ m.kind = g.kind ∧
      s.holds[n]? = some m.id.key ∧ s.held? n = some (m.id.key, m.cell.content) := by
  rcases getElem?_of_forall₂ h.holds n with ⟨hc, hs⟩ | ⟨g, key, hc, hs, m, hm, rfl, hkind⟩
  · refine .inl ⟨hc, hs, ?_⟩
    simp [Store.held?, hs]
  · refine .inr ⟨g, m, hc, hm, hkind, hs, ?_⟩
    simp [Store.held?, hs, h.cells_of_getElem? hm]

/-- A hold on a meter that is there is given out. -/
theorem hold (h : Represents c s) {g : Handle} {m : Meter}
    (hm : c.registry.meters[g.position]? = some m) (hkind : m.kind = g.kind) :
    Matches (c.hold g) (s.hold m.id.key m.kind) := by
  have hclient : c.hold g = ({ c with holds := c.holds ++ [g] }, .held m.id m.kind) := by
    simp only [Client.hold, hm]
  rw [hclient]
  refine ⟨⟨h.distinct, h.cells, ?_⟩, rfl⟩
  exact List.rel_append h.holds (.cons ⟨m, hm, rfl, hkind⟩ .nil)

/-- A meter is new, and so is its cell. -/
theorem append (h : Represents c s) {id : Id} (hnone : c.registry.find? id = none) (kind : Kind) :
    Represents
      { c with registry := { c.registry with meters := c.registry.meters ++ [.fresh id kind] } }
      (s.put id.key (.fresh kind)) where
  distinct := by
    have hentered := h.distinct.enter id kind
    simp only [enter, hnone] at hentered
    exact hentered
  cells := by
    have hcontents : c.registry.contents id.key = none := by
      rw [← h.cells]
      exact h.cells_of_find?_eq_none hnone
    rw [contents_append hcontents, ← h.cells]
    rfl
  holds := h.holds.imp fun _ _ => StandsFor.keep (c.registry.keeps_append _)

/-- One meter is changed, and so is its cell. -/
theorem modify (h : Represents c s) {i : Nat} {m : Meter} (hm : c.registry.meters[i]? = some m)
    {f : Meter → Meter} (hid : ∀ a, (f a).id = a.id) (hkind : ∀ a, (f a).kind = a.kind) :
    Represents { c with registry := c.registry.modify i f }
      (s.put m.id.key (f m).cell.content) where
  distinct := h.distinct.modify i hid
  cells := by
    rw [h.distinct.contents_modify hm hid, ← h.cells]
    rfl
  holds := h.holds.imp fun _ _ => StandsFor.keep (c.registry.keeps_modify i hid hkind)

/-! ### Each operation -/

theorem get (h : Represents c s) (id : Id) (access : Simulation.Access) (kind : Kind) :
    Matches (c.perform (.get id access kind)) (s.perform (.get id.key access kind)) := by
  -- The key has a cell exactly if the identity has a meter, and that has the kind of the cell.
  rcases register_cases c.registry id kind with ⟨g, hfound, hregister⟩ | ⟨hnone, hregister⟩
  · obtain ⟨m, hm, rfl, hkind⟩ := find?_spec hfound
    have hcell := h.cells_of_getElem? hm
    simp only [Client.perform, Store.perform, hregister, hcell, Cell.kind_content, Handle.expect]
    by_cases hk : g.kind = kind
    · have hk' : m.cell.kind = kind := hkind.trans hk
      rw [if_pos hk, if_pos hk', ← hk']
      exact h.hold hm hkind
    · have hk' : ¬ m.cell.kind = kind := fun he => hk (hkind.symm.trans he)
      rw [if_neg hk, if_neg hk', ← hkind]
      exact ⟨h, rfl⟩
  · have hcell := h.cells_of_find?_eq_none hnone
    simp only [Client.perform, Store.perform, hregister, hcell]
    have hkind : (Meter.fresh id kind).kind = kind := Cell.kind_fresh kind
    have hnew := (h.append hnone kind).hold (g := ⟨c.registry.meters.length, kind⟩)
      (m := .fresh id kind) (by simp) hkind
    rw [hkind] at hnew
    exact hnew

theorem pick (h : Represents c s) (id : Id) :
    Matches (c.perform (.pick id)) (s.perform (.pick id.key)) := by
  cases hfound : c.registry.find? id with
  | none =>
    simp only [Client.perform, Store.perform, hfound, h.cells_of_find?_eq_none hfound]
    exact ⟨h, rfl⟩
  | some g =>
    obtain ⟨m, hm, rfl, hkind⟩ := find?_spec hfound
    simp only [Client.perform, Store.perform, hfound, h.cells_of_getElem? hm, Cell.kind_content]
    exact h.hold hm hkind

theorem update (h : Represents c s) (n : Nat) (u : Update) :
    Matches (c.perform (.update n u)) (s.perform (.update n u)) := by
  rcases h.held?_cases n with ⟨hc, -, hs⟩ | ⟨g, m, hc, hm, hkind, -, hs⟩
  · simp only [Client.perform, Store.perform, hc, hs]
    exact ⟨h, rfl⟩
  · simp only [Client.perform, Store.perform, hc, hs, Cell.kind_content]
    by_cases hk : u.kind = g.kind
    · have hk' : u.kind = m.cell.kind := hk.trans hkind.symm
      rw [if_pos hk, if_pos hk', ← Cell.content_update]
      exact ⟨h.modify hm (fun _ => rfl) fun a => Cell.kind_update a.cell u, rfl⟩
    · have hk' : ¬ u.kind = m.cell.kind := fun he => hk (he.trans hkind)
      rw [if_neg hk, if_neg hk']
      exact ⟨h, rfl⟩

theorem look (h : Represents c s) (n : Nat) :
    Matches (c.perform (.look n)) (s.perform (.look n)) := by
  rcases h.held?_cases n with ⟨hc, -, hs⟩ | ⟨g, m, hc, hm, hkind, -, hs⟩
  · simp only [Client.perform, Store.perform, hc, hs]
    exact ⟨h, rfl⟩
  · have hview : c.registry.viewAt g = m.cell.content.view := by
      simp only [viewAt, hm, Option.map_some, Option.getD_some, Cell.view_content]
    simp only [Client.perform, Store.perform, hc, hs, hview]
    exact ⟨h, rfl⟩

theorem measure (h : Represents c s) (n : Nat) :
    Matches (c.perform (.measure n)) (s.perform (.measure n)) := by
  rcases h.held?_cases n with ⟨hc, -, hs⟩ | ⟨g, m, hc, hm, hkind, -, hs⟩
  · simp only [Client.perform, Store.perform, hc, hs]
    exact ⟨h, rfl⟩
  · simp only [Client.perform, Store.perform, hc, hs, measureAt_of_getElem? hm,
      ← Cell.content_reset]
    refine ⟨h.modify hm (fun _ => rfl) fun a => Cell.kind_reset a.cell, ?_⟩
    have hvalues : valuesOf m.measurements = _ := funext (valuesOf_measurements m)
    simp only [Response.seen, hvalues, eq_comm]

theorem measurements (h : Represents c s) :
    Matches (c.perform .measurements) (s.perform .measurements) := by
  refine ⟨⟨h.distinct.sweep, ?_, ?_⟩, ?_⟩
  · simp only [Client.perform, Store.perform, contents_sweep, h.cells]
  · exact h.holds.imp fun _ _ => StandsFor.keep c.registry.keeps_sweep
  · have hvalues : valuesOf c.registry.sweep.2 = _ := h.distinct.valuesOf_sweepAlong _
    simp only [Client.perform, Store.perform, Response.seen, hvalues, h.cells]

theorem meters (h : Represents c s) : Matches (c.perform .meters) (s.perform .meters) := by
  refine ⟨h, ?_⟩
  have hkinds := funext h.distinct.kinds_visited
  simp only [Client.perform, Store.perform, Response.seen, hkinds, h.cells]

theorem perform (h : Represents c s) (op : Operation Id) :
    Matches (c.perform op) (s.perform (op.map Id.key)) := by
  cases op with
  | get id access kind => exact h.get id access kind
  | pick id => exact h.pick id
  | update n u => exact h.update n u
  | look n => exact h.look n
  | measure n => exact h.measure n
  | measurements => exact h.measurements
  | meters => exact h.meters

/-! ### Runs -/

theorem after (h : Represents c s) (ops : List (Operation Id)) :
    Represents (c.after ops) (s.after (ops.map (·.map Id.key))) := by
  induction ops generalizing c s with
  | nil => exact h
  | cons op rest ih => exact ih (h.perform op).1

theorem answers (h : Represents c s) (ops : List (Operation Id)) :
    (c.responses ops).map Response.seen = s.answers (ops.map (·.map Id.key)) := by
  induction ops generalizing c s with
  | nil => rfl
  | cons op rest ih =>
    obtain ⟨hnext, hseen⟩ := h.perform op
    rw [Client.responses, List.map_cons, hseen, ih hnext]
    rfl

end Represents

/-! ### Nothing else is touched -/

/-- The key of which an operation may change the cell. -/
def Store.target? (s : Store) : Operation Key → Option Key
  | .get key _ _ => some key
  | .update n _ | .measure n => s.holds[n]?
  | _ => none

theorem Store.key_of_held? {s : Store} {n : Nat} {key : Key} {c : Content}
    (h : s.held? n = some (key, c)) : s.holds[n]? = some key := by
  simp only [held?, Option.bind_eq_bind, Option.bind_eq_some_iff, Option.pure_def,
    Option.some.injEq, Prod.mk.injEq] at h
  obtain ⟨key', hkey, c', -, rfl, -⟩ := h
  exact hkey

/-- Only a sweep touches the cell of another key. -/
theorem Store.cells_perform_of_ne (s : Store) {op : Operation Key} (hop : op ≠ .measurements)
    {key : Key} (hkey : s.target? op ≠ some key) : (s.perform op).1.cells key = s.cells key := by
  cases op with
  | get key' access kind =>
    have hne : key ≠ key' := fun he => hkey (he ▸ rfl)
    simp only [perform]
    split
    · exact Function.update_of_ne hne _ _
    · split <;> rfl
  | pick key' =>
    simp only [perform]
    split <;> rfl
  | update n u =>
    simp only [perform]
    split
    · rfl
    · rename_i key' c hheld
      have hne : key ≠ key' := fun he => hkey (he ▸ key_of_held? hheld)
      split
      · exact Function.update_of_ne hne _ _
      · rfl
  | look n =>
    simp only [perform]
    split <;> rfl
  | measure n =>
    simp only [perform]
    split
    · rfl
    · rename_i key' c hheld
      have hne : key ≠ key' := fun he => hkey (he ▸ key_of_held? hheld)
      exact Function.update_of_ne hne _ _
  | measurements => exact absurd rfl hop
  | meters => rfl

/-- The key of the meter that an operation may change. -/
def Client.target? (c : Client) : Operation Id → Option Key
  | .get id _ _ => some id.key
  | .update n _ | .measure n => do
    let h ← c.holds[n]?
    let m ← c.registry.meters[h.position]?
    return m.id.key
  | _ => none

theorem Represents.target?_eq {c : Client} {s : Store} (h : Represents c s) (op : Operation Id) :
    c.target? op = s.target? (op.map Id.key) := by
  have hhold : ∀ n : Nat, (do
      let g ← c.holds[n]?
      let m ← c.registry.meters[g.position]?
      return m.id.key : Option Key) = s.holds[n]? := by
    intro n
    rcases h.held?_cases n with ⟨hc, hs, -⟩ | ⟨g, m, hc, hm, -, hs, -⟩
    · simp [hc, hs]
    · simp [hc, hm, hs]
  cases op with
  | get | pick | look | measurements | meters => rfl
  | update n u => exact hhold n
  | measure n => exact hhold n

theorem Represents.contents_perform_of_ne {c : Client} {s : Store} (h : Represents c s)
    {op : Operation Id} (hop : op ≠ .measurements) {key : Key} (hkey : c.target? op ≠ some key) :
    (c.perform op).1.registry.contents key = c.registry.contents key := by
  have hop' : op.map Id.key ≠ .measurements := by
    cases op with
    | measurements => exact absurd rfl hop
    | get | pick | update | look | measure | meters => exact nofun
  rw [h.target?_eq] at hkey
  rw [← (h.perform op).1.cells, ← h.cells]
  exact s.cells_perform_of_ne hop' hkey

theorem Client.hold_ne_failed (c : Client) (g : Handle) (access : Simulation.Access) (e : Error) :
    (c.hold g).2 ≠ .failed access e := by
  unfold hold
  split <;> exact nofun

/-- A call that asks for another kind of meter changes nothing. -/
theorem Client.perform_get_of_failed {c : Client} {id : Id} {access access' : Simulation.Access}
    {kind : Kind} {e : Error} (h : (c.perform (.get id access kind)).2 = .failed access' e) :
    (c.perform (.get id access kind)).1 = c := by
  rcases register_cases c.registry id kind with ⟨g, -, hregister⟩ | ⟨-, hregister⟩
  · simp only [perform, hregister] at h ⊢
    cases hanswer : g.expect id kind with
    | error e' => rfl
    | ok g' =>
      rw [hanswer] at h
      exact absurd h (hold_ne_failed _ _ _ _)
  · simp only [perform, hregister] at h
    exact absurd h (hold_ne_failed _ _ _ _)

/-! ### Spellings -/

theorem Operation.map_map {ι κ ν : Type} (f : ι → κ) (g : κ → ν) (op : Operation ι) :
    (op.map f).map g = op.map (g ∘ f) := by
  cases op <;> rfl

theorem Operation.map_id {ι : Type} (op : Operation ι) : op.map id = op := by cases op <;> rfl

theorem Operation.map_injective {ι κ : Type} [Nonempty ι] {f : ι → κ} (hf : Function.Injective f) :
    Function.Injective (Operation.map f) := by
  obtain ⟨g, hg⟩ := hf.hasLeftInverse
  have hback : ∀ op : Operation ι, (op.map f).map g = op := by
    intro op
    rw [map_map, hg.comp_eq_id, map_id]
  exact Function.LeftInverse.injective hback

/-- What is meant by operations, read off the identities that were spelled. -/
theorem map_key_map_id (ops : List (Operation Spelling)) :
    (ops.map (·.map Spelling.id)).map (·.map Id.key) = ops.map (·.map Spelling.key) := by
  have hkey : Id.key ∘ Spelling.id = Spelling.key := funext Spelling.key_id
  rw [List.map_map, ← hkey]
  exact List.map_congr_left fun op _ => op.map_map Spelling.id Id.key

/-- Operations that mean the same are the same once the identities are built. -/
theorem map_id_eq_of_map_key_eq {ops ops' : List (Operation Spelling)}
    (h : ops'.map (·.map Spelling.key) = ops.map (·.map Spelling.key)) :
    ops'.map (·.map Spelling.id) = ops.map (·.map Spelling.id) := by
  -- No two identities mean the same, so what is meant tells the identities.
  rw [← map_key_map_id, ← map_key_map_id] at h
  have hkey : Function.Injective Id.key := fun _ _ => Id.key_inj.mp
  exact (Operation.map_injective hkey).list_map h

namespace Client

/-- **A registry is a store of contents.**  In every run, every answer is that of a map from keys to
contents; to spell identities in another way that means the same changes no answer; an operation
other than a sweep changes the contents of one key at most, and a call that fails changes nothing;
and a sweep right after another one reports the same statistics as that, without those of gauges,
and all of them zero. -/
theorem refines_store {config : Config} (usable : config.Valid) (ops : List (Operation Spelling)) :
    let c := (new config usable).after (ops.map (·.map Spelling.id))
    ((new config usable).responses (ops.map (·.map Spelling.id))).map Response.seen =
        Store.empty.answers (ops.map (·.map Spelling.key)) ∧
      (∀ ops' : List (Operation Spelling),
        ops'.map (·.map Spelling.key) = ops.map (·.map Spelling.key) →
          (new config usable).responses (ops'.map (·.map Spelling.id)) =
            (new config usable).responses (ops.map (·.map Spelling.id))) ∧
      (∀ op : Operation Id, op ≠ .measurements → ∀ key, c.target? op ≠ some key →
        (c.perform op).1.registry.contents key = c.registry.contents key) ∧
      (∀ id access kind e, (c.perform (.get id access kind)).2 = .failed access e →
        (c.perform (.get id access kind)).1 = c) ∧
      c.registry.sweep.1.sweep.2 =
        (c.registry.sweep.2.filter (·.statistic ≠ .gauge)).map
          fun m => { m with value := .zero } := by
  intro c
  have hstart : Represents (new config usable) .empty := .new config usable
  refine ⟨?_, ?_, ?_, ?_, ?_⟩
  · rw [← map_key_map_id]
    exact hstart.answers _
  · intro ops' hsame
    rw [map_id_eq_of_map_key_eq hsame]
  · intro op hop key hkey
    exact (hstart.after _).contents_perform_of_ne hop hkey
  · intro id access kind e hfailed
    exact perform_get_of_failed hfailed
  · exact sweep_sweep c.registry

/-- A counter counts three, and is asked for as a gauge under another spelling.  That fails, and the
sweep that follows reports the three. -/
theorem counter_kept_after_mismatch :
    ∃ (key : Key) (ops : List (Operation Spelling)),
      key = ⟨"hits", .ofList [("path", "/"), ("zone", "b")]⟩ ∧
      ops = [.get (.make "hits" [("zone", "a"), ("path", "/"), ("zone", "b")]) .tried .counter,
        .update 0 (.add 3),
        .get (.withTag (.make "hits" [("path", "/")]) "zone" "b") .demanded .gauge, .look 0, .measurements, .look 0] ∧
      ((new {} (by decide)).responses (ops.map (·.map Spelling.id))).map Response.seen =
        [.held key .counter, .nothing, .failed .demanded key .counter .gauge, .view (.count 3),
          .measured fun key' => if key' = key then [(.count, .ofNat 3)] else [],
          .view (.count 0)] := by
  have hstore : ∀ key : Key, Store.empty.answers [.get key .tried .counter, .update 0 (.add 3),
      .get key .demanded .gauge, .look 0, .measurements, .look 0] =
      [.held key .counter, .nothing, .failed .demanded key .counter .gauge, .view (.count 3),
        .measured fun key' => if key' = key then [(.count, .ofNat 3)] else [],
        .view (.count 0)] := by
    intro key
    have hvalues : (fun key' => ((Function.update (fun _ => none) key
        (some (Content.counter (3 % wordCount))) key').map Content.values).getD []) =
          fun key' => if key' = key then [(.count, .ofNat 3)] else [] := by
      funext key'
      rw [Function.update_apply]
      split <;> rfl
    have hcount : UInt64.ofNat (3 % wordCount) = 3 := rfl
    have hreset : (Content.counter (3 % wordCount)).reset = .counter 0 := rfl
    simp [Store.answers, Store.perform, Store.empty, Store.put, Store.hold, Store.held?,
      Content.kind, Content.fresh, Content.update, Update.kind, Content.view, hvalues, hcount, hreset]
  have hkey : Key.mk "hits" (.ofList [("zone", "a"), ("path", "/"), ("zone", "b")]) =
      ⟨"hits", .ofList [("path", "/"), ("zone", "b")]⟩ := by decide
  have hkey' : Key.mk "hits" ((TagMap.ofList [("path", "/")]).insert "zone" "b") =
      ⟨"hits", .ofList [("path", "/"), ("zone", "b")]⟩ := by decide
  refine ⟨_, _, rfl, rfl, (refines_store _ _).1.trans ?_⟩
  simp only [List.map_cons, List.map_nil, Operation.map, Spelling.key, hkey, hkey']
  exact hstore _

end Client

end DimensionalMetrics
