/-
  DoipPlayground.VirtualEcu.Observers
  ───────────────────────────────────
  **TWO RUNS THAT DIFFER IN THEIR OBSERVERS.**

  An `@on_request` observer shares `_call` with the handlers.  Its return
  value and its ordinary exceptions are dropped, but `NegativeResponse` and
  `SuppressResponse` pass through `_call`, and the loop over the observers
  lets them pass as well.

    • `Plugin.Alike` — the same plugin, but for what its observers do,
    • `Watching` — observers that leave alone what they can reach,
    • `interruption` — the first exception of an observer that gets through,
    • `observers_unheard_iff` — two behaviours cannot be told apart, whatever
      else is loaded, iff they interrupt alike.
-/
import DoipPlayground.VirtualEcu.DispatchLadder

namespace DoipPlayground.VirtualEcu

open Wire

variable {τ ι ρ : Type}

/-! ## §1. The same plugins with other observers. -/

/-- The same hook, but for what an observer does. -/
inductive HookEntry.Alike : HookEntry τ → HookEntry τ → Prop where
  | observer (priority : Option Int) (method method' : Handler τ Unit Value) :
      Alike (.observer priority method) (.observer priority method')
  | refl (entry : HookEntry τ) : Alike entry entry

/-- The same plugin, but for what its observers do. -/
structure Plugin.Alike (p p' : Plugin τ) : Prop where
  name : p.name = p'.name
  priority : p.priority = p'.priority
  loadIndex : p.loadIndex = p'.loadIndex
  enabled : p.enabled = p'.enabled
  hooks : List.Forall₂ HookEntry.Alike p.hooks p'.hooks

/-- No observer leaves a trace in what it can reach. -/
def Watching (plugins : List (Plugin τ)) : Prop :=
  ∀ hook ∈ registered plugins HookEntry.observer?, ∀ request st ecu,
    (hook.method request st () ecu).1 = ecu

/-- Plugins without an observer. -/
def Observerless (plugins : List (Plugin τ)) : Prop :=
  ∀ plugin ∈ plugins, ∀ entry ∈ plugin.hooks, entry.observer? = none

theorem filterMap_alike {f : HookEntry τ → Option α}
    (hf : ∀ e e', HookEntry.Alike e e' → f e = f e') {l l' : List (HookEntry τ)}
    (h : List.Forall₂ HookEntry.Alike l l') : l.filterMap f = l'.filterMap f := by
  induction h with
  | nil => rfl
  | cons hentry _ ih =>
      rw [List.filterMap_cons, List.filterMap_cons, hf _ _ hentry, ih]

/-- A bucket that does not look at observers has the same hooks in both. -/
theorem registered_alike {bucket : HookEntry τ → Option (Option Int × Handler τ ι ρ)}
    (hb : ∀ e e', HookEntry.Alike e e' → bucket e = bucket e') {ps ps' : List (Plugin τ)}
    (h : List.Forall₂ Plugin.Alike ps ps') : registered ps bucket = registered ps' bucket := by
  induction h with
  | nil => rfl
  | @cons p p' ps ps' hp _ ih =>
      unfold registered at ih ⊢
      rw [List.filter_cons, List.filter_cons, hp.enabled]
      split
      · rw [List.flatMap_cons, List.flatMap_cons, ih, hp.priority, hp.loadIndex, hp.name]
        rw [filterMap_alike (fun e e' he => by rw [hb e e' he]) hp.hooks]
      · exact ih

theorem registered_append (bucket : HookEntry τ → Option (Option Int × Handler τ ι ρ))
    (ps others : List (Plugin τ)) :
    registered (ps ++ others) bucket = registered ps bucket ++ registered others bucket := by
  unfold registered
  rw [List.filter_append, List.flatMap_append]

theorem registered_observerless {others : List (Plugin τ)} (h : Observerless others) :
    registered others HookEntry.observer? = [] := by
  unfold registered
  rw [List.flatMap_eq_nil_iff]
  intro p hp
  rw [List.filterMap_eq_nil_iff]
  intro entry hentry
  rw [h p (List.mem_filter.mp hp).1 entry hentry]
  rfl

/-! ## §2. What of an observer gets through. -/

/-- An exception of an observer that `_call` raises again. -/
def HandlerEnd.interruption (request : UdsRequest) : HandlerEnd ρ → Option Result
  | .negative nrc sid => some (.negative nrc (some (sid.getD request.sid)))
  | .suppress => some .suppress
  | .declined | .returned _ | .raised => none

theorem HandlerEnd.interruption_ne_bytes (request : UdsRequest) (ending : HandlerEnd ρ)
    (data : Bytes) : ending.interruption request ≠ some (.bytes data) := by
  cases ending <;> simp [HandlerEnd.interruption]

namespace Dispatcher

section
variable (cfg : EcuConfig) (policy : Loader.HandlerErrorPolicy) (d : Dispatcher τ)
  (request : UdsRequest) (st : StateId)

/-- The first of the observers' exceptions that gets through. -/
def interruption (ecu : Ecu τ) : Option Result :=
  d.observers.findSome? fun hook => (hook.method request st () ecu).2.interruption request

theorem call_observer {hook : Hook τ Unit Value} {ecu : Ecu τ}
    (hwatch : (hook.method request st () ecu).1 = ecu) :
    (call policy request st true hook () ecu).1 = ecu
      ∧ ∀ e, (call policy request st true hook () ecu).2 = .error e
          ↔ (hook.method request st () ecu).2.interruption request = some e := by
  unfold call
  cases hmethod : hook.method request st () ecu with
  | mk ecu' ending =>
      rw [hmethod] at hwatch
      cases ending with
      | negative nrc sid => exact ⟨hwatch, by simp [HandlerEnd.interruption]⟩
      | suppress => exact ⟨hwatch, by simp [HandlerEnd.interruption]⟩
      | declined => exact ⟨hwatch, by simp [HandlerEnd.interruption]⟩
      | returned value => exact ⟨hwatch, by simp [HandlerEnd.interruption]⟩
      | raised => exact ⟨hwatch, by simp [HandlerEnd.interruption]⟩

/-- Observers that only watch: the first interruption is all there is to them. -/
theorem observe_watching {hooks : List (Hook τ Unit Value)} {ecu : Ecu τ}
    (hwatch : ∀ hook ∈ hooks, (hook.method request st () ecu).1 = ecu) :
    observe policy request st hooks ecu
      = (ecu, match hooks.findSome? fun hook =>
            (hook.method request st () ecu).2.interruption request with
          | some e => .error e
          | none => .ok ()) := by
  induction hooks with
  | nil => rfl
  | cons hook rest ih =>
      obtain ⟨hsame, herror⟩ :=
        call_observer policy request st (hwatch hook (List.mem_cons_self ..))
      have hrest := ih fun hook hmem => hwatch hook (List.mem_cons_of_mem _ hmem)
      rw [observe]
      cases hcall : call policy request st true hook () ecu with
      | mk ecu' outcome =>
          rw [hcall] at hsame herror
          obtain rfl : ecu' = ecu := hsame
          cases outcome with
          | error e =>
              have hint := (herror e).mp rfl
              rw [List.findSome?_cons, hint]
          | ok value =>
              have hint : (hook.method request st () ecu').2.interruption request = none := by
                rw [Option.eq_none_iff_forall_ne_some]
                intro e he
                have := (herror e).mpr he
                cases this
              rw [List.findSome?_cons, hint]
              exact hrest

theorem dispatch_watching {ecu : Ecu τ}
    (hwatch : ∀ hook ∈ d.observers, (hook.method request st () ecu).1 = ecu) :
    dispatch cfg policy d request st ecu
      = match interruption d request st ecu with
        | some e => (ecu, e)
        | none => dispatchService cfg policy d request st ecu := by
  unfold dispatch interruption
  rw [observe_watching policy request st hwatch]
  cases d.observers.findSome? fun hook =>
      (hook.method request st () ecu).2.interruption request <;> rfl

theorem interruption_ne_bytes (ecu : Ecu τ) (data : Bytes) :
    interruption d request st ecu ≠ some (.bytes data) := by
  intro h
  obtain ⟨hook, _, hhook⟩ := List.exists_of_findSome?_eq_some h
  exact HandlerEnd.interruption_ne_bytes request _ data hhook

end

/-! ## §3. Only the observers' table differs. -/

theorem new_alike {ps ps' : List (Plugin τ)} (h : List.Forall₂ Plugin.Alike ps ps') :
    new ps' = { new ps with observers := (new ps').observers } := by
  have hservice (sid : Int) : registered ps (HookEntry.service? sid)
      = registered ps' (HookEntry.service? sid) :=
    registered_alike (by rintro _ _ (_ | _) <;> rfl) h
  have hany : registered ps HookEntry.any? = registered ps' HookEntry.any? :=
    registered_alike (by rintro _ _ (_ | _) <;> rfl) h
  have hread (did : Int) : registered ps (HookEntry.readDid? did)
      = registered ps' (HookEntry.readDid? did) :=
    registered_alike (by rintro _ _ (_ | _) <;> rfl) h
  have hwrite (did : Int) : registered ps (HookEntry.writeDid? did)
      = registered ps' (HookEntry.writeDid? did) :=
    registered_alike (by rintro _ _ (_ | _) <;> rfl) h
  have hroutine (rid : Int) (control : Option Int) :
      registered ps (HookEntry.routine? rid control)
        = registered ps' (HookEntry.routine? rid control) :=
    registered_alike (by rintro _ _ (_ | _) <;> rfl) h
  unfold new
  simp only [hservice, hany, hread, hwrite, hroutine]

section
variable (cfg : EcuConfig) (policy : Loader.HandlerErrorPolicy) (d : Dispatcher τ)
  (observers : List (Hook τ Unit Value)) (request : UdsRequest) (st : StateId)

theorem readAll_observers (dids : List Nat) (ecu : Ecu τ) :
    readAll cfg policy { d with observers := observers } request st dids ecu
      = readAll cfg policy d request st dids ecu := by
  induction dids generalizing ecu with
  | nil => rfl
  | cons did rest ih =>
      simp only [readAll, ih]
      rfl

/-- Behind the observers nobody asks for them. -/
theorem dispatchService_observers (ecu : Ecu τ) :
    dispatchService cfg policy { d with observers := observers } request st ecu
      = dispatchService cfg policy d request st ecu := by
  unfold dispatchService dispatchAny dispatchCore handle readDataByIdentifier
  simp only [readAll_observers]
  rfl

end

theorem new_append_observers (ps : List (Plugin τ)) {others : List (Plugin τ)}
    (h : Observerless others) : (new (ps ++ others)).observers = (new ps).observers := by
  show Ladder.sortBy Hook.sortKey (registered (ps ++ others) HookEntry.observer?) = _
  rw [registered_append, registered_observerless h, List.append_nil]
  rfl

theorem interruption_append (ps : List (Plugin τ)) {others : List (Plugin τ)}
    (h : Observerless others) (request : UdsRequest) (st : StateId) (ecu : Ecu τ) :
    interruption (new (ps ++ others)) request st ecu = interruption (new ps) request st ecu := by
  unfold interruption
  rw [new_append_observers ps h]

/-! ## §4. A hook that answers first. -/

/-- Below every priority of a table. -/
theorem exists_priority_lt (hooks : List (Hook τ ι ρ)) :
    ∃ priority : Int, ∀ hook ∈ hooks, priority < hook.priority := by
  induction hooks with
  | nil => exact ⟨0, by simp⟩
  | cons hook rest ih =>
      obtain ⟨priority, hbelow⟩ := ih
      refine ⟨min priority hook.priority - 1, ?_⟩
      intro other hother
      rcases List.mem_cons.mp hother with rfl | hrest
      · omega
      · have := hbelow other hrest
        omega

theorem sortKey_lt {a b : Hook τ ι ρ} (h : a.priority < b.priority) : a.sortKey < b.sortKey :=
  Prod.Lex.toLex_lt_toLex.mpr (Or.inl h)

/-- Answers with an empty response. -/
def eagerHook (priority : Int) : Hook τ Unit Value where
  priority := priority
  loadIndex := 0
  pluginName := "eager"
  method := fun _ _ _ ecu => (ecu, .returned (.bytes []))

/-- Answers this service with an empty response. -/
def eager (priority sid : Int) : Plugin τ where
  name := "eager"
  loadIndex := 0
  hooks := [.service sid (some priority) (eagerHook priority).method]

theorem observerless_eager (priority sid : Int) :
    Observerless [(eager priority sid : Plugin τ)] := by
  intro plugin hplugin entry hentry
  obtain rfl := List.mem_singleton.mp hplugin
  obtain rfl := List.mem_singleton.mp hentry
  rfl

theorem registered_eager_any (priority : Int) :
    registered [(eager priority anyService : Plugin τ)] HookEntry.any? = [eagerHook priority] := rfl

theorem registered_eager_service (priority : Int) {sid : Int} (h : sid ≠ anyService) :
    registered [(eager priority sid : Plugin τ)] (HookEntry.service? sid)
      = [eagerHook priority] := by
  simp [registered, eager, HookEntry.service?, h, eagerHook]

theorem sortBy_eager {priority : Int} {hooks : List (Hook τ Unit Value)}
    (h : ∀ hook ∈ hooks, priority < hook.priority) :
    ∃ rest, Ladder.sortBy Hook.sortKey (hooks ++ [eagerHook priority])
      = eagerHook priority :: rest :=
  Ladder.sortBy_append_least Hook.sortKey fun hook hmem =>
    sortKey_lt (a := eagerHook priority) (h hook hmem)

/-- No hook is registered for the service of an empty request. -/
theorem service_anyService (ps : List (Plugin τ)) : (new ps).service anyService = [] := by
  show Ladder.sortBy Hook.sortKey (registered ps (HookEntry.service? anyService)) = []
  have hbucket : registered ps (HookEntry.service? anyService) = [] := by
    unfold registered
    rw [List.flatMap_eq_nil_iff]
    intro p _
    rw [List.filterMap_eq_nil_iff]
    intro entry _
    cases entry with
    | service sid priority method =>
        show Option.map _ (if sid = anyService ∧ sid ≠ anyService then _ else none) = none
        rw [if_neg (by tauto)]
        rfl
    | _ => rfl
  rw [hbucket, Ladder.sortBy_nil]

/-- With one more plugin, the rest of the ladder has an answer of its own. -/
theorem exists_eager (cfg : EcuConfig) (policy : Loader.HandlerErrorPolicy)
    (request : UdsRequest) (st : StateId) (ecu : Ecu τ) (ps : List (Plugin τ)) :
    ∃ others, Observerless others ∧
      dispatchService cfg policy (new (ps ++ others)) request st ecu = (ecu, .bytes []) := by
  by_cases hempty : serviceKey request = anyService
  · -- an empty request passes by the hooks for a service
    obtain ⟨priority, hbelow⟩ := exists_priority_lt (registered ps HookEntry.any?)
    obtain ⟨rest, hsort⟩ := sortBy_eager hbelow
    refine ⟨[eager priority anyService], observerless_eager _ _, ?_⟩
    have htable : (new (ps ++ [eager priority anyService])).any = eagerHook priority :: rest := by
      rw [← hsort, ← registered_eager_any, ← registered_append]
      rfl
    unfold dispatchService dispatchAny
    rw [hempty, service_anyService, htable]
    rfl
  · obtain ⟨priority, hbelow⟩ :=
      exists_priority_lt (registered ps (HookEntry.service? (serviceKey request)))
    obtain ⟨rest, hsort⟩ := sortBy_eager hbelow
    refine ⟨[eager priority (serviceKey request)], observerless_eager _ _, ?_⟩
    have htable : (new (ps ++ [eager priority (serviceKey request)])).service (serviceKey request)
        = eagerHook priority :: rest := by
      rw [← hsort, ← registered_eager_service priority hempty, ← registered_append]
      rfl
    unfold dispatchService
    rw [htable]
    rfl

/-! ## §5. Two runs. -/

section
variable (cfg : EcuConfig) (policy : Loader.HandlerErrorPolicy) (request : UdsRequest)
  (st : StateId)

/-- A run with observers that only watch. -/
theorem dispatch_new {ps : List (Plugin τ)} (hwatch : Watching ps)
    {others : List (Plugin τ)} (hothers : Observerless others) (ecu : Ecu τ) :
    dispatch cfg policy (new (ps ++ others)) request st ecu
      = match interruption (new ps) request st ecu with
        | some e => (ecu, e)
        | none => dispatchService cfg policy (new (ps ++ others)) request st ecu := by
  rw [dispatch_watching, interruption_append ps hothers]
  intro hook hmem
  rw [new_append_observers ps hothers] at hmem
  exact hwatch hook ((Ladder.mem_sortBy Hook.sortKey).mp hmem) request st ecu

/-- The rest of the ladder is the same in both runs. -/
theorem dispatchService_alike {ps ps' : List (Plugin τ)}
    (h : List.Forall₂ Plugin.Alike ps ps') (others : List (Plugin τ)) (ecu : Ecu τ) :
    dispatchService cfg policy (new (ps' ++ others)) request st ecu
      = dispatchService cfg policy (new (ps ++ others)) request st ecu := by
  have hothers : List.Forall₂ Plugin.Alike others others :=
    List.forall₂_same.mpr fun p _ =>
      { name := rfl, priority := rfl, loadIndex := rfl, enabled := rfl
        hooks := List.forall₂_same.mpr fun entry _ => .refl entry }
  rw [new_alike (List.rel_append h hothers), dispatchService_observers]

/-- **Two behaviours of the observers cannot be told apart**, whatever other
plugins are loaded, iff the first interruption is the same in both. -/
theorem observers_unheard_iff {ps ps' : List (Plugin τ)}
    (halike : List.Forall₂ Plugin.Alike ps ps') (hwatch : Watching ps) (hwatch' : Watching ps')
    (ecu : Ecu τ) :
    (∀ others, Observerless others →
        dispatch cfg policy (new (ps ++ others)) request st ecu
          = dispatch cfg policy (new (ps' ++ others)) request st ecu)
      ↔ interruption (new ps) request st ecu = interruption (new ps') request st ecu := by
  constructor
  · intro hsame
    -- another plugin makes the rest of the ladder answer as no observer can
    obtain ⟨others, hothers, heager⟩ := exists_eager cfg policy request st ecu ps
    have heager' := (dispatchService_alike cfg policy request st halike others ecu).trans heager
    have hruns := hsame others hothers
    rw [dispatch_new cfg policy request st hwatch hothers,
      dispatch_new cfg policy request st hwatch' hothers, heager, heager'] at hruns
    cases hint : interruption (new ps) request st ecu with
    | none =>
        cases hint' : interruption (new ps') request st ecu with
        | none => rfl
        | some e' =>
            rw [hint, hint'] at hruns
            obtain rfl : Result.bytes [] = e' := congrArg Prod.snd hruns
            exact absurd hint' (interruption_ne_bytes _ request st ecu [])
    | some e =>
        cases hint' : interruption (new ps') request st ecu with
        | none =>
            rw [hint, hint'] at hruns
            obtain rfl : e = Result.bytes [] := congrArg Prod.snd hruns
            exact absurd hint (interruption_ne_bytes _ request st ecu [])
        | some e' =>
            rw [hint, hint'] at hruns
            exact congrArg some (congrArg Prod.snd hruns)
  · intro hint others hothers
    rw [dispatch_new cfg policy request st hwatch hothers,
      dispatch_new cfg policy request st hwatch' hothers, hint,
      dispatchService_alike cfg policy request st halike others ecu]

end

/-- One observer, which ends like this. -/
def watcher (ending : HandlerEnd Value) : Plugin Unit where
  name := "watcher"
  loadIndex := 0
  hooks := [.observer none (fun _ _ _ ecu => (ecu, ending))]

theorem watcher_alike (ending ending' : HandlerEnd Value) :
    List.Forall₂ Plugin.Alike [watcher ending] [watcher ending'] :=
  .cons { name := rfl, priority := rfl, loadIndex := rfl, enabled := rfl
          hooks := .cons (.observer _ _ _) .nil } .nil

theorem watching_watcher (ending : HandlerEnd Value) : Watching [watcher ending] := by
  intro hook hmem request st ecu
  obtain rfl := List.mem_singleton.mp hmem
  rfl

theorem observers_watcher (ending : HandlerEnd Value) :
    (new [watcher ending]).observers
      = [⟨100, 0, "watcher", fun _ _ _ ecu => (ecu, ending)⟩] :=
  Ladder.sortBy_singleton Hook.sortKey _

/-- An observer that raises an ordinary exception is not heard. -/
theorem observers_unheard_raising :
    dispatch {} .nrc (new [watcher .declined]) ⟨[0x3E, 0x00], 0x0E00, 0x0003, false⟩ 0
        ⟨EcuCore.init {}, ()⟩
      = dispatch {} .nrc (new [watcher .raised]) ⟨[0x3E, 0x00], 0x0E00, 0x0003, false⟩ 0
        ⟨EcuCore.init {}, ()⟩ := by
  have hsame := (observers_unheard_iff {} .nrc ⟨[0x3E, 0x00], 0x0E00, 0x0003, false⟩ 0
    (watcher_alike .declined .raised) (watching_watcher _) (watching_watcher _)
    ⟨EcuCore.init {}, ()⟩).mpr (by
      unfold interruption
      rw [observers_watcher, observers_watcher]
      rfl)
  exact hsame [] (fun p hp => by cases hp)

/-- **An observer that raises `NegativeResponse` takes the answer's place**:
the same request, the same plugin, but for what its observer does. -/
theorem observer_heard :
    List.Forall₂ Plugin.Alike [watcher .declined] [watcher (.negative 0x22 none)]
      ∧ Watching [watcher .declined] ∧ Watching [watcher (.negative 0x22 none)]
      ∧ (dispatch {} .nrc (new [watcher .declined]) ⟨[0x3E, 0x00], 0x0E00, 0x0003, false⟩ 0
          ⟨EcuCore.init {}, ()⟩).2 = .bytes [0x7E, 0x00]
      ∧ (dispatch {} .nrc (new [watcher (.negative 0x22 none)])
          ⟨[0x3E, 0x00], 0x0E00, 0x0003, false⟩ 0 ⟨EcuCore.init {}, ()⟩).2
        = .negative 0x22 (some 0x3E) := by
  refine ⟨watcher_alike _ _, watching_watcher _, watching_watcher _, ?_, ?_⟩
  · have hnew : new [watcher .declined]
        = { new [] with observers := (new [watcher .declined]).observers } := rfl
    unfold dispatch
    rw [observers_watcher]
    show (dispatchService _ _ _ _ _ _).2 = _
    rw [hnew, dispatchService_observers, new_nil]
    rfl
  · unfold dispatch
    rw [observers_watcher]
    rfl

end Dispatcher

end DoipPlayground.VirtualEcu
