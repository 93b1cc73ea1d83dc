/-
  DoipPlayground.VirtualEcu.Registration
  ──────────────────────────────────────
  **FROM DECORATED METHODS TO HOOK TABLES** (`plugin.py`, `dispatcher.py`,
  `doip_dispatcher.py`).

  A decorator leaves a mark on a function, a class collects the marks of its
  whole MRO, and both dispatchers sort what their plugins have collected.

    • `collect` — `Plugin.__init_subclass__`,
    • `register` — `_register`, one for the kinds of each dispatcher,
    • `hookedOnce_iff` — when a method is registered once,
    • `agreed_iff` — when both dispatchers have the hooks of the enabled
      plugins,
    • `dispatcher_new`, `doipDispatcher_new` — the tables requests and frames
      are dispatched with come from this registration.
-/
import DoipPlayground.VirtualEcu.Dispatcher
import DoipPlayground.VirtualEcu.DoipHooks
import Mathlib.Data.List.AList
import Mathlib.Data.List.Nodup

namespace DoipPlayground.VirtualEcu.Registration

/-! ## §1. Marks. -/

/-- What a method is registered for: a kind of hook, with the key if the kind
has one. -/
inductive Point where
  | observer
  | service (sid : Int)
  | readDid (did : Int)
  | writeDid (did : Int)
  | routine (rid : Int) (control : Option Int)
  | routingActivation
  | diagnosticAck
  | frameRx
  | frameTx
  | identificationRequest
  deriving DecidableEq, Repr

/-- Of a kind in `_UDS_KINDS`; the others are in `_DOIP_KINDS`. -/
def Point.isUds : Point → Bool
  | .observer | .service _ | .readDid _ | .writeDid _ | .routine _ _ => true
  | .routingActivation | .diagnosticAck | .frameRx | .frameTx | .identificationRequest => false

/-- What a decorator leaves on a function; `extra` has the priority only. -/
structure Mark where
  point : Point
  priority : Option Int
  deriving DecidableEq, Repr

/-- `_mark`: behind the marks the function has. -/
def mark (point : Point) (priority : Option Int) (hooks : List Mark) : List Mark :=
  hooks ++ [⟨point, priority⟩]

/-! The decorators. -/

def onService (sid : Int := anyService) (priority : Option Int := none) :=
  mark (.service sid) priority

def onRequest (priority : Option Int := none) := mark .observer priority

def readDid (did : Int) (priority : Option Int := none) := mark (.readDid did) priority

def writeDid (did : Int) (priority : Option Int := none) := mark (.writeDid did) priority

def routine (rid : Int) (control priority : Option Int := none) :=
  mark (.routine rid control) priority

def onRoutingActivation (priority : Option Int := none) := mark .routingActivation priority

def onDiagnosticAck (priority : Option Int := none) := mark .diagnosticAck priority

def onFrameRx (priority : Option Int := none) := mark .frameRx priority

def onFrameTx (priority : Option Int := none) := mark .frameTx priority

def onIdentificationRequest (priority : Option Int := none) := mark .identificationRequest priority

/-! ## §2. Classes. -/

/-- `vars(klass)`: the attributes in order, each with its marks. -/
structure ClassBody where
  attrs : List (String × List Mark)
  distinct : (attrs.map Prod.fst).Nodup

/-- A method name with `extra`. -/
abbrev Entry := String × Option Int

/-- `hooks`: kind and key in one. -/
abbrev HookTable := AList fun _ : Point => List Entry

namespace HookTable

/-- The entries under a kind and key. -/
def bucket (table : HookTable) (point : Point) : List Entry := (table.lookup point).getD []

/-- The body of the innermost loop: append the entry unless it is there. -/
def add (table : HookTable) (point : Point) (entry : Entry) : HookTable :=
  let bucket := table.bucket point
  table.insert point (if entry ∈ bucket then bucket else bucket ++ [entry])

end HookTable

/-- The loop over the marks of an attribute. -/
def collectAttr (table : HookTable) (attr : String × List Mark) : HookTable :=
  attr.2.foldl (fun table mark => table.add mark.point (attr.1, mark.priority)) table

/-- The loop over the attributes of a class. -/
def collectClass (table : HookTable) (klass : ClassBody) : HookTable :=
  klass.attrs.foldl collectAttr table

/-- `__init_subclass__`: base first over the MRO. -/
def collect (mro : List ClassBody) : HookTable := mro.reverse.foldl collectClass ∅

/-! ## §3. Dispatchers. -/

/-- A plugin object, with the MRO of its class. -/
structure Plugin where
  self : Nat
  name : String
  priority : Int := 100
  loadIndex : Nat
  enabled : Bool := true
  mro : List ClassBody

def Plugin.hooks (plugin : Plugin) : HookTable := collect plugin.mro

/-- `getattr(plugin, method_name)` -/
structure BoundMethod where
  self : Nat
  name : String
  deriving DecidableEq, Repr

/-- `Hook` and `DoipHook` -/
structure Hook where
  priority : Int
  loadIndex : Nat
  pluginName : String
  methodName : String
  method : BoundMethod
  deriving DecidableEq, Repr

/-- `_sort_key` -/
def Hook.sortKey (hook : Hook) : Int ×ₗ Nat ×ₗ String :=
  toLex (hook.priority, toLex (hook.loadIndex, hook.pluginName))

/-- What `_register` makes of an entry. -/
def Plugin.hook (plugin : Plugin) (entry : Entry) : Hook where
  priority := entry.2.getD plugin.priority
  loadIndex := plugin.loadIndex
  pluginName := plugin.name
  methodName := entry.1
  method := { self := plugin.self, name := entry.1 }

/-- The hook lists of a dispatcher; the catch-alls are under `anyService`. -/
abbrev Buckets := Point → List Hook

def Buckets.append (buckets : Buckets) (point : Point) (hook : Hook) : Buckets :=
  Function.update buckets point (buckets point ++ [hook])

/-- The loop over the hooks of a plugin; other kinds are skipped. -/
def registerPlugin (kinds : Point → Bool) (buckets : Buckets) (plugin : Plugin) : Buckets :=
  plugin.hooks.entries.foldl (fun buckets item =>
    if kinds item.1 then
      item.2.foldl (fun buckets entry => buckets.append item.1 (plugin.hook entry)) buckets
    else buckets) buckets

/-- `_register` -/
def register (kinds : Point → Bool) (plugins : List Plugin) : Buckets :=
  let buckets := plugins.foldl (registerPlugin kinds) fun _ => []
  fun point => Ladder.sortBy Hook.sortKey (buckets point)

/-- `Dispatcher.__init__` -/
def dispatcher (plugins : List Plugin) : Buckets :=
  register Point.isUds (plugins.filter (·.enabled))

/-- `DoipDispatcher.__init__` -/
def doipDispatcher (plugins : List Plugin) : Buckets := register (!·.isUds) plugins

/-- The hooks consulted at a point, by the dispatcher of its kind. -/
def consulted (plugins : List Plugin) (point : Point) : List Hook :=
  if point.isUds then dispatcher plugins point else doipDispatcher plugins point

/-- The hooks a loop over a bucket calls: one after the other, until one
ends the loop. -/
def invoked (ends : Hook → Bool) : List Hook → List Hook
  | [] => []
  | hook :: rest => if ends hook then [hook] else hook :: invoked ends rest

/-! ## §4. What a class collects. -/

namespace HookTable

@[simp] theorem bucket_empty (point : Point) : bucket ∅ point = [] := by
  unfold bucket
  rw [AList.lookup_empty]
  rfl

theorem bucket_add (table : HookTable) (point : Point) (entry : Entry) (other : Point) :
    (table.add point entry).bucket other = if point = other ∧ entry ∉ table.bucket other
      then table.bucket other ++ [entry] else table.bucket other := by
  by_cases hpoint : point = other
  · subst hpoint
    by_cases hmem : entry ∈ table.bucket point
    · rw [if_neg (fun h => h.2 hmem)]
      simp only [add, if_pos hmem]
      rw [bucket, AList.lookup_insert, Option.getD_some]
    · rw [if_pos ⟨rfl, hmem⟩]
      simp only [add, if_neg hmem]
      rw [bucket, AList.lookup_insert, Option.getD_some]
  · rw [if_neg (fun h => hpoint h.1), add, bucket, AList.lookup_insert_ne (Ne.symm hpoint), bucket]

/-- No entry twice. -/
def Distinct (table : HookTable) : Prop := ∀ point, (table.bucket point).Nodup

theorem Distinct.add {table : HookTable} (h : table.Distinct) (point : Point) (entry : Entry) :
    (table.add point entry).Distinct := by
  intro other
  rw [bucket_add]
  split
  · rename_i hnew
    rw [← List.concat_eq_append]
    exact (h other).concat hnew.2
  · exact h other

theorem mem_bucket_add {table : HookTable} {point : Point} {entry : Entry} {other : Point}
    {e : Entry} : e ∈ (table.add point entry).bucket other ↔
      e ∈ table.bucket other ∨ point = other ∧ entry = e := by
  rw [bucket_add]
  split
  · rename_i hnew
    rw [List.mem_append, List.mem_singleton]
    constructor
    · intro h
      exact h.imp id (fun heq => ⟨hnew.1, heq.symm⟩)
    · intro h
      exact h.imp id (fun heq => heq.2.symm)
  · rename_i hold
    constructor
    · exact Or.inl
    · intro h
      rcases h with h | ⟨hpoint, rfl⟩
      · exact h
      · by_contra hnew
        exact hold ⟨hpoint, hnew⟩

end HookTable

/-- An attribute of a class of the MRO has this mark. -/
def Marked (mro : List ClassBody) (name : String) (mark : Mark) : Prop :=
  ∃ klass ∈ mro, ∃ attr ∈ klass.attrs, attr.1 = name ∧ mark ∈ attr.2

/-- A loop that adds entries keeps what every single addition keeps. -/
theorem foldl_preserves {α β : Type} {f : β → α → β} {P : β → Prop}
    (hstep : ∀ b a, P b → P (f b a)) {b : β} (hb : P b) (l : List α) : P (l.foldl f b) := by
  induction l generalizing b with
  | nil => exact hb
  | cons a rest ih => exact ih (hstep b a hb)

theorem collectAttr_distinct {table : HookTable} (attr : String × List Mark)
    (h : table.Distinct) : (collectAttr table attr).Distinct :=
  foldl_preserves (fun _ _ h => h.add _ _) h _

/-- **No entry is collected twice.** -/
theorem collect_distinct (mro : List ClassBody) : (collect mro).Distinct := by
  refine foldl_preserves ?_ ?_ _
  · intro table klass h
    exact foldl_preserves (fun _ attr h => collectAttr_distinct attr h) h _
  · intro point
    rw [HookTable.bucket_empty]
    exact List.nodup_nil

/-- What a loop adds, from what its body adds. -/
theorem foldl_mem {α : Type} {f : HookTable → α → HookTable} {adds : α → Point → Entry → Prop}
    (hstep : ∀ table a point entry, entry ∈ (f table a).bucket point ↔
      entry ∈ table.bucket point ∨ adds a point entry)
    (table : HookTable) (l : List α) (point : Point) (entry : Entry) :
    entry ∈ (l.foldl f table).bucket point ↔
      entry ∈ table.bucket point ∨ ∃ a ∈ l, adds a point entry := by
  induction l generalizing table with
  | nil => simp
  | cons a rest ih =>
      rw [List.foldl_cons, ih, hstep, List.exists_mem_cons_iff, or_assoc]

theorem mem_collectAttr (table : HookTable) (attr : String × List Mark) (point : Point)
    (entry : Entry) : entry ∈ (collectAttr table attr).bucket point ↔
      entry ∈ table.bucket point
        ∨ ∃ mark ∈ attr.2, mark.point = point ∧ (attr.1, mark.priority) = entry := by
  have hadd : ∀ (table : HookTable) (mark : Mark) (point : Point) (entry : Entry),
      entry ∈ (table.add mark.point (attr.1, mark.priority)).bucket point ↔
        entry ∈ table.bucket point
          ∨ mark.point = point ∧ (attr.1, mark.priority) = entry :=
    fun _ _ _ _ => HookTable.mem_bucket_add
  exact foldl_mem hadd table attr.2 point entry

theorem mem_collectClass (table : HookTable) (klass : ClassBody) (point : Point)
    (entry : Entry) : entry ∈ (collectClass table klass).bucket point ↔
      entry ∈ table.bucket point ∨ ∃ attr ∈ klass.attrs, ∃ mark ∈ attr.2,
        mark.point = point ∧ (attr.1, mark.priority) = entry :=
  foldl_mem mem_collectAttr table klass.attrs point entry

/-- **What is collected** are the marks of the MRO, under their names. -/
theorem mem_collect {mro : List ClassBody} {point : Point} {name : String}
    {priority : Option Int} :
    (name, priority) ∈ (collect mro).bucket point ↔ Marked mro name ⟨point, priority⟩ := by
  unfold collect
  rw [foldl_mem mem_collectClass, HookTable.bucket_empty]
  constructor
  · intro h
    rcases h with h | ⟨klass, hklass, attr, hattr, mark, hmark, hpoint, hentry⟩
    · cases h
    · cases hentry
      subst hpoint
      exact ⟨klass, List.mem_reverse.mp hklass, attr, hattr, rfl, hmark⟩
  · intro h
    obtain ⟨klass, hklass, attr, hattr, rfl, hmark⟩ := h
    exact Or.inr ⟨klass, List.mem_reverse.mpr hklass, attr, hattr, _, hmark, rfl, rfl⟩

/-! ## §5. What a dispatcher registers. -/

/-- The hooks of a plugin at a point. -/
def Plugin.hooksAt (point : Point) (plugin : Plugin) : List Hook :=
  (plugin.hooks.bucket point).map plugin.hook

@[simp] theorem Buckets.append_apply (buckets : Buckets) (point : Point) (hook : Hook)
    (other : Point) : buckets.append point hook other =
      if point = other then buckets other ++ [hook] else buckets other := by
  unfold Buckets.append
  by_cases h : point = other
  · subst h
    rw [Function.update_self, if_pos rfl]
  · rw [Function.update_of_ne (Ne.symm h), if_neg h]

theorem foldl_append_apply (plugin : Plugin) (point : Point) (entries : List Entry)
    (buckets : Buckets) (other : Point) :
    entries.foldl (fun buckets entry => buckets.append point (plugin.hook entry)) buckets other =
      if point = other then buckets other ++ entries.map plugin.hook else buckets other := by
  induction entries generalizing buckets with
  | nil => simp
  | cons entry rest ih =>
      rw [List.foldl_cons, ih, Buckets.append_apply]
      split
      · rw [List.append_assoc, List.map_cons, List.singleton_append]
      · rfl

/-- The items of a table under one key are those of its bucket. -/
theorem flatMap_entries {β : Type} {table : HookTable} {point : Point} {f : Entry → β} :
    (table.entries.flatMap fun item => if item.1 = point then item.2.map f else []) =
      (table.bucket point).map f := by
  unfold HookTable.bucket AList.lookup
  have hkeys := table.nodupKeys
  generalize table.entries = items at hkeys ⊢
  induction items with
  | nil => rfl
  | cons item rest ih =>
      obtain ⟨hfresh, hrest⟩ := List.nodupKeys_cons.mp hkeys
      rw [List.flatMap_cons]
      by_cases h : item.1 = point
      · subst h
        have hnone : (rest.dlookup item.1).getD [] = [] := by
          rw [List.dlookup_eq_none.mpr hfresh]
          rfl
        rw [if_pos rfl, ih hrest, hnone, List.map_nil, List.append_nil]
        cases item with
        | mk key entries => rw [List.dlookup_cons_eq, Option.getD_some]
      · rw [if_neg h, List.nil_append, ih hrest]
        cases item with
        | mk key entries => rw [List.dlookup_cons_ne _ _ (Ne.symm h)]

theorem registerPlugin_apply (kinds : Point → Bool) (buckets : Buckets) (plugin : Plugin)
    (point : Point) : registerPlugin kinds buckets plugin point =
      buckets point ++ (if kinds point then plugin.hooksAt point else []) := by
  unfold registerPlugin Plugin.hooksAt
  rw [← flatMap_entries]
  generalize plugin.hooks.entries = items
  induction items generalizing buckets with
  | nil => simp
  | cons item rest ih =>
      rw [List.foldl_cons, ih, List.flatMap_cons]
      by_cases hpoint : item.1 = point
      · subst hpoint
        by_cases hkind : kinds item.1
        · rw [if_pos hkind, if_pos hkind, if_pos hkind, foldl_append_apply, if_pos rfl,
            if_pos rfl, List.append_assoc]
        · rw [if_neg hkind, if_neg hkind, if_neg hkind]
      · rw [if_neg hpoint, List.nil_append]
        split
        · rw [foldl_append_apply, if_neg hpoint]
        · rfl

/-- **A bucket** has the hooks of the plugins at its point, if it is of the
kinds of the dispatcher, in the order of their keys. -/
theorem register_apply (kinds : Point → Bool) (plugins : List Plugin) (point : Point) :
    register kinds plugins point = Ladder.sortBy Hook.sortKey
      (if kinds point then plugins.flatMap (Plugin.hooksAt point) else []) := by
  have happended : ∀ buckets : Buckets, plugins.foldl (registerPlugin kinds) buckets point =
      buckets point ++ (if kinds point then plugins.flatMap (Plugin.hooksAt point) else []) := by
    induction plugins with
    | nil => simp
    | cons plugin rest ih =>
        intro buckets
        rw [List.foldl_cons, ih, registerPlugin_apply, List.append_assoc]
        split
        · rw [List.flatMap_cons]
        · rfl
  show Ladder.sortBy Hook.sortKey (plugins.foldl (registerPlugin kinds) (fun _ => []) point) = _
  rw [happended, List.nil_append]

/-- Both dispatchers at once: only the one for UDS leaves disabled plugins out. -/
theorem consulted_eq (plugins : List Plugin) (point : Point) :
    consulted plugins point = Ladder.sortBy Hook.sortKey
      ((if point.isUds then plugins.filter (·.enabled) else plugins).flatMap
        (Plugin.hooksAt point)) := by
  unfold consulted dispatcher doipDispatcher
  split
  · rename_i huds
    rw [register_apply, if_pos huds]
  · rename_i huds
    rw [register_apply, if_pos (by simpa using huds)]

/-! ## §6. One method, one hook. -/

/-- Every method has one hook at most at a point, and every loop over the
hooks there calls it at most once. -/
structure HookedOnce (mro : List ClassBody) : Prop where
  names : ∀ point, (((collect mro).bucket point).map Prod.fst).Nodup
  calls : ∀ plugins : List Plugin, (plugins.map Plugin.self).Nodup →
    ∀ plugin ∈ plugins, plugin.mro = mro → ∀ point ends name,
      (invoked ends (consulted plugins point)).countP (·.method = ⟨plugin.self, name⟩) ≤ 1

/-- Marks of one name for the same point have the same priority. -/
def OnePriority (mro : List ClassBody) : Prop :=
  ∀ name point priority priority', Marked mro name ⟨point, priority⟩ →
    Marked mro name ⟨point, priority'⟩ → priority = priority'

theorem names_nodup_iff {mro : List ClassBody} :
    (∀ point, (((collect mro).bucket point).map Prod.fst).Nodup) ↔ OnePriority mro := by
  constructor
  · intro h name point priority priority' hmark hmark'
    have hinj := (List.nodup_map_iff_inj_on (collect_distinct mro point)).mp (h point)
    have heq := hinj _ (mem_collect.mpr hmark) _ (mem_collect.mpr hmark') rfl
    exact (Prod.mk.inj heq).2
  · intro h point
    refine (List.nodup_map_iff_inj_on (collect_distinct mro point)).mpr ?_
    intro a ha b hb hname
    obtain ⟨name, priority⟩ := a
    obtain ⟨name', priority'⟩ := b
    have hname : name = name' := hname
    subst hname
    rw [h name point priority priority' (mem_collect.mp ha) (mem_collect.mp hb)]

theorem invoked_isPrefix (ends : Hook → Bool) (hooks : List Hook) :
    (invoked ends hooks).IsPrefix hooks := by
  induction hooks with
  | nil => exact List.prefix_refl _
  | cons hook rest ih =>
      unfold invoked
      split
      · exact ⟨rest, rfl⟩
      · exact (List.prefix_cons_inj hook).mpr ih

/-- A plugin registers a method as often as its class has the name. -/
theorem countP_hooksAt (plugin : Plugin) (point : Point) (self : Nat) (name : String) :
    (plugin.hooksAt point).countP (·.method = ⟨self, name⟩) =
      if plugin.self = self then ((plugin.hooks.bucket point).map Prod.fst).count name else 0 := by
  unfold Plugin.hooksAt
  rw [List.countP_map]
  split
  · rename_i hself
    rw [List.count_eq_countP, List.countP_map]
    refine List.countP_congr ?_
    intro entry _
    simp [Plugin.hook, hself]
  · rename_i hself
    rw [List.countP_eq_zero]
    intro entry _
    simp [Plugin.hook, hself]

theorem countP_flatMap_le {plugins : List Plugin} {self : Nat} {point : Point}
    (hself : (plugins.map Plugin.self).Nodup)
    (hnames : ∀ plugin ∈ plugins, plugin.self = self →
      ((plugin.hooks.bucket point).map Prod.fst).Nodup) (name : String) :
    (plugins.flatMap (Plugin.hooksAt point)).countP (·.method = ⟨self, name⟩) ≤ 1 := by
  induction plugins with
  | nil => simp
  | cons plugin rest ih =>
      rw [List.map_cons, List.nodup_cons] at hself
      rw [List.flatMap_cons, List.countP_append, countP_hooksAt]
      split
      · rename_i hown
        have hrest : (rest.flatMap (Plugin.hooksAt point)).countP (·.method = ⟨self, name⟩)
            = 0 := by
          rw [List.countP_eq_zero]
          intro hook hhook hsame
          obtain ⟨other, hother, hhook⟩ := List.mem_flatMap.mp hhook
          obtain ⟨entry, _, rfl⟩ := List.mem_map.mp hhook
          have hother_self : other.self = self :=
            congrArg BoundMethod.self (of_decide_eq_true hsame)
          exact hself.1 (hown ▸ hother_self ▸ List.mem_map_of_mem hother)
        have hhead := List.nodup_iff_count_le_one.mp
          (hnames plugin (List.mem_cons_self ..) hown) name
        omega
      · have htail := ih hself.2 (fun other hother => hnames other (List.mem_cons_of_mem _ hother))
        omega

/-- **A method is hooked once** iff no two of its marks for the same point
have different priorities. -/
theorem hookedOnce_iff (mro : List ClassBody) : HookedOnce mro ↔ OnePriority mro := by
  constructor
  · intro h
    exact names_nodup_iff.mp h.names
  · intro h
    have hnames := names_nodup_iff.mpr h
    refine ⟨hnames, ?_⟩
    intro plugins hself plugin hplugin hmro point ends name
    have hone : ∀ other ∈ plugins, other.self = plugin.self →
        ((other.hooks.bucket point).map Prod.fst).Nodup := by
      intro other hother hsame
      rw [List.inj_on_of_nodup_map hself hother hplugin hsame, Plugin.hooks, hmro]
      exact hnames point
    refine le_trans (invoked_isPrefix ends _).sublist.countP_le ?_
    rw [consulted_eq, (Ladder.sortBy_perm Hook.sortKey _).countP_eq]
    split
    · refine countP_flatMap_le ((List.filter_sublist.map _).nodup hself) ?_ name
      intro other hother
      exact hone other (List.mem_of_mem_filter hother)
    · exact countP_flatMap_le hself hone name

/-- A class hooks `handle` for 0x22, its subclass does so with a priority of
its own; the subclass comes first in the MRO. -/
def reprioritised : List ClassBody :=
  [{ attrs := [("handle", onService 0x22 (some 10) [])], distinct := List.nodup_singleton _ },
    { attrs := [("handle", onService 0x22 (some 50) [])], distinct := List.nodup_singleton _ }]

/-- Its `handle` is there twice. -/
theorem reprioritised_twice :
    (collect reprioritised).bucket (.service 0x22) = [("handle", some 50), ("handle", some 10)]
      ∧ ¬ HookedOnce reprioritised := by
  have hbucket : (collect reprioritised).bucket (.service 0x22) =
      [("handle", some 50), ("handle", some 10)] := by decide
  refine ⟨hbucket, ?_⟩
  intro h
  have hnames := h.names (.service 0x22)
  rw [hbucket] at hnames
  exact absurd hnames (by decide)

/-! ## §7. The hooks of the enabled plugins. -/

/-- The hooks of a kind and key of the plugins that are enabled. -/
def enabledHooks (plugins : List Plugin) (point : Point) : List Hook :=
  (plugins.filter (·.enabled)).flatMap (Plugin.hooksAt point)

/-- Both dispatchers consult exactly these, in the order of their keys. -/
structure Agreed (plugins : List Plugin) : Prop where
  hooks : ∀ point, (consulted plugins point).Perm (enabledHooks plugins point)
  ordered : ∀ point, (consulted plugins point).Pairwise fun a b => a.sortKey ≤ b.sortKey

theorem length_flatMap_filter (plugins : List Plugin) (point : Point) :
    (plugins.flatMap (Plugin.hooksAt point)).length = (enabledHooks plugins point).length
      + ((plugins.filter (!·.enabled)).flatMap (Plugin.hooksAt point)).length := by
  unfold enabledHooks
  rw [← List.length_append, ← List.flatMap_append]
  exact ((List.filter_append_perm _ plugins).symm.flatMap_right _).length_eq

/-- Left out plugins make a difference only if they have hooks there. -/
theorem perm_enabledHooks_iff {plugins : List Plugin} {point : Point} :
    (plugins.flatMap (Plugin.hooksAt point)).Perm (enabledHooks plugins point) ↔
      ∀ plugin ∈ plugins, plugin.enabled = false → plugin.hooksAt point = [] := by
  have hdisabled : (∀ plugin ∈ plugins, plugin.enabled = false → plugin.hooksAt point = []) ↔
      (plugins.filter (!·.enabled)).flatMap (Plugin.hooksAt point) = [] := by
    rw [List.flatMap_eq_nil_iff]
    simp
  rw [hdisabled]
  constructor
  · intro h
    have hlength := h.length_eq
    rw [length_flatMap_filter] at hlength
    exact List.length_eq_zero_iff.mp (by omega)
  · intro h
    have hperm := (List.filter_append_perm (·.enabled) plugins).symm.flatMap_right
      (Plugin.hooksAt point)
    rw [List.flatMap_append, h, List.append_nil] at hperm
    exact hperm

/-- **Both dispatchers have the hooks of the enabled plugins** iff no disabled
plugin has a hook of a DoIP kind. -/
theorem agreed_iff (plugins : List Plugin) : Agreed plugins ↔
    ∀ plugin ∈ plugins, plugin.enabled = false →
      ∀ point, point.isUds = false → plugin.hooks.bucket point = [] := by
  constructor
  · intro h plugin hplugin hdisabled point hdoip
    have hperm := h.hooks point
    rw [consulted_eq, hdoip, if_neg (by decide)] at hperm
    have hall := ((Ladder.sortBy_perm Hook.sortKey _).symm.trans hperm)
    exact List.map_eq_nil_iff.mp (perm_enabledHooks_iff.mp hall plugin hplugin hdisabled)
  · intro h
    refine ⟨?_, ?_⟩
    · intro point
      rw [consulted_eq]
      refine (Ladder.sortBy_perm Hook.sortKey _).trans ?_
      cases huds : point.isUds with
      | true => exact List.Perm.refl _
      | false =>
          refine perm_enabledHooks_iff.mpr ?_
          intro plugin hplugin hdisabled
          exact List.map_eq_nil_iff.mpr (h plugin hplugin hdisabled point huds)
    · intro point
      rw [consulted_eq]
      exact Ladder.sortBy_sorted Hook.sortKey _

/-- A plugin that is not enabled, with an observer of received frames. -/
def disabledObserver : Plugin where
  self := 1
  name := "Sniffer"
  loadIndex := 0
  enabled := false
  mro := [{ attrs := [("frame", onFrameRx none [])], distinct := List.nodup_singleton _ }]

/-- It observes all the same. -/
theorem disabledObserver_consulted :
    (consulted [disabledObserver] .frameRx).map Hook.method = [⟨1, "frame"⟩]
      ∧ ¬ Agreed [disabledObserver] := by
  have hhooks : [disabledObserver].flatMap (Plugin.hooksAt .frameRx) =
      [⟨100, 0, "Sniffer", "frame", ⟨1, "frame"⟩⟩] := by decide
  have hmethods : (consulted [disabledObserver] .frameRx).map Hook.method = [⟨1, "frame"⟩] := by
    rw [consulted_eq, if_neg (by decide), hhooks, Ladder.sortBy_singleton]
    rfl
  refine ⟨hmethods, ?_⟩
  intro h
  have hempty : consulted [disabledObserver] .frameRx = [] := (h.hooks .frameRx).eq_nil
  rw [hempty] at hmethods
  exact absurd hmethods (by decide)

/-! ## §8. The tables the requests and frames are dispatched with. -/

section
variable {τ σ ι ρ ε μ η : Type}

/-- What the methods do, by what their kind is called with. -/
structure Methods (τ : Type) where
  request : BoundMethod → Handler τ Unit Value
  write : BoundMethod → Handler τ Bytes WriteValue
  routine : BoundMethod → Handler τ (Nat × Bytes) Value

/-- An entry as a decorated method; none for the kinds of the DoIP layer. -/
def Methods.form? (methods : Methods τ) (point : Point) (priority : Option Int)
    (method : BoundMethod) : Option (HookEntry τ) :=
  match point with
  | .observer => some (.observer priority (methods.request method))
  | .service sid => some (.service sid priority (methods.request method))
  | .readDid did => some (.readDid did priority (methods.request method))
  | .writeDid did => some (.writeDid did priority (methods.write method))
  | .routine rid control => some (.routine rid control priority (methods.routine method))
  | _ => none

/-- The decorated methods of a plugin, in the form of one layer. -/
def Plugin.decorated (form? : Point → Option Int → BoundMethod → Option ε) (plugin : Plugin) :
    List ε :=
  plugin.hooks.entries.flatMap fun item => item.2.filterMap fun entry =>
    form? item.1 entry.2 ⟨plugin.self, entry.1⟩

def Methods.plugin (methods : Methods τ) (plugin : Plugin) : VirtualEcu.Plugin τ where
  name := plugin.name
  priority := plugin.priority
  loadIndex := plugin.loadIndex
  enabled := plugin.enabled
  hooks := plugin.decorated methods.form?

/-- A hook with what its method does. -/
def Hook.resolved (methods : BoundMethod → Handler τ ι ρ) (hook : Hook) :
    VirtualEcu.Hook τ ι ρ where
  priority := hook.priority
  loadIndex := hook.loadIndex
  pluginName := hook.pluginName
  method := methods hook.method

/-- `select` picks the entries of one point, and knows their methods. -/
def Selects (form? : Point → Option Int → BoundMethod → Option ε)
    (select : ε → Option (Option Int × μ)) (point : Point) (method : BoundMethod → μ) : Prop :=
  ∀ other priority m, (form? other priority m).bind select =
    if other = point then some (priority, method m) else none

/-- What is selected of the decorated methods are the entries of the point. -/
theorem filterMap_decorated {form? : Point → Option Int → BoundMethod → Option ε}
    {select : ε → Option (Option Int × μ)} {point : Point} {method : BoundMethod → μ}
    (hselect : Selects form? select point method) (plugin : Plugin)
    (hook : Option Int × μ → η) :
    ((plugin.decorated form?).filterMap fun e => (select e).map hook) =
      (plugin.hooks.bucket point).map fun entry =>
        hook (entry.2, method ⟨plugin.self, entry.1⟩) := by
  unfold Plugin.decorated
  rw [List.filterMap_flatMap, ← flatMap_entries]
  refine List.flatMap_congr ?_
  intro item _
  rw [List.filterMap_filterMap]
  by_cases hpoint : item.1 = point
  · rw [if_pos hpoint, ← List.filterMap_eq_map]
    refine List.filterMap_congr ?_
    intro entry _
    have hentry := hselect item.1 entry.2 ⟨plugin.self, entry.1⟩
    rw [if_pos hpoint] at hentry
    obtain ⟨e, he, hsome⟩ := Option.bind_eq_some_iff.mp hentry
    rw [he]
    show (select e).map _ = _
    rw [hsome]
    rfl
  · rw [if_neg hpoint, List.filterMap_eq_nil_iff]
    intro entry _
    have hentry := hselect item.1 entry.2 ⟨plugin.self, entry.1⟩
    rw [if_neg hpoint] at hentry
    refine Option.bind_eq_none_iff.mpr ?_
    intro e he
    rw [Option.bind_eq_none_iff.mp hentry e he]
    rfl

/-- A bucket of the dispatcher of requests. -/
theorem sortBy_registered {methods : Methods τ} {method : BoundMethod → Handler τ ι ρ}
    {select : HookEntry τ → Option (Option Int × Handler τ ι ρ)} {point : Point}
    (huds : point.isUds = true) (hselect : Selects methods.form? select point method)
    (plugins : List Plugin) :
    Ladder.sortBy VirtualEcu.Hook.sortKey (registered (plugins.map methods.plugin) select) =
      (dispatcher plugins point).map (Hook.resolved method) := by
  unfold dispatcher registered
  rw [register_apply, if_pos huds]
  have hkey : (Hook.sortKey : Hook → _) = VirtualEcu.Hook.sortKey ∘ Hook.resolved method := rfl
  rw [hkey, ← Ladder.sortBy_map, List.map_flatMap, List.filter_map, List.flatMap_map]
  congr 1
  refine List.flatMap_congr ?_
  intro plugin _
  rw [Plugin.hooksAt, List.map_map]
  exact filterMap_decorated hselect plugin _

/-- The catch-alls are not among the hooks for a service. -/
theorem registered_service_any (plugins : List (VirtualEcu.Plugin τ)) :
    registered plugins (HookEntry.service? anyService) = [] := by
  refine List.flatMap_eq_nil_iff.mpr ?_
  intro plugin _
  refine List.filterMap_eq_nil_iff.mpr ?_
  intro entry _
  cases entry with
  | service sid priority method =>
      have hnone : ¬ (sid = anyService ∧ sid ≠ anyService) := fun h => h.2 h.1
      simp only [HookEntry.service?, if_neg hnone, Option.map_none]
  | observer _ _ | readDid _ _ _ | writeDid _ _ _ | routine _ _ _ _ => rfl

/-- **The tables of the dispatcher** of requests are those buckets. -/
theorem dispatcher_new (methods : Methods τ) (plugins : List Plugin) :
    VirtualEcu.Dispatcher.new (plugins.map methods.plugin) =
      { observers := (dispatcher plugins .observer).map (Hook.resolved methods.request)
        service := fun sid => if sid = anyService then []
          else (dispatcher plugins (.service sid)).map (Hook.resolved methods.request)
        any := (dispatcher plugins (.service anyService)).map (Hook.resolved methods.request)
        readDid := fun did =>
          (dispatcher plugins (.readDid did)).map (Hook.resolved methods.request)
        writeDid := fun did =>
          (dispatcher plugins (.writeDid did)).map (Hook.resolved methods.write)
        routines := fun rid control =>
          (dispatcher plugins (.routine rid control)).map (Hook.resolved methods.routine) } := by
  unfold VirtualEcu.Dispatcher.new
  congr 1
  · refine sortBy_registered rfl ?_ plugins
    intro other priority m
    cases other <;> simp [Methods.form?, HookEntry.observer?]
  · funext sid
    split
    · rename_i hany
      rw [hany, registered_service_any, Ladder.sortBy_nil]
    · rename_i hsid
      refine sortBy_registered rfl ?_ plugins
      intro other priority m
      cases other with
      | service sid' =>
          simp only [Methods.form?, Option.bind_some, HookEntry.service?, Point.service.injEq]
          refine if_congr ⟨And.left, ?_⟩ rfl rfl
          intro heq
          exact ⟨heq, heq ▸ hsid⟩
      | observer | readDid _ | writeDid _ | routine _ _ | routingActivation | diagnosticAck
      | frameRx | frameTx | identificationRequest => simp [Methods.form?, HookEntry.service?]
  · refine sortBy_registered rfl ?_ plugins
    intro other priority m
    cases other <;> simp [Methods.form?, HookEntry.any?]
  · funext did
    refine sortBy_registered rfl ?_ plugins
    intro other priority m
    cases other <;> simp [Methods.form?, HookEntry.readDid?]
  · funext did
    refine sortBy_registered rfl ?_ plugins
    intro other priority m
    cases other <;> simp [Methods.form?, HookEntry.writeDid?]
  · funext rid control
    refine sortBy_registered rfl ?_ plugins
    intro other priority m
    cases other <;> simp [Methods.form?, HookEntry.routine?]

/-- What the methods of the DoIP layer do. -/
structure DoipMethods (σ : Type) where
  activation : BoundMethod → HookMethod σ RoutingActivationRequest
  ack : BoundMethod → HookMethod σ UdsRequest
  frame : BoundMethod → HookMethod σ (Nat × Bytes)

/-- An entry of a kind a connection asks for. -/
def DoipMethods.form? (methods : DoipMethods σ) (point : Point) (priority : Option Int)
    (method : BoundMethod) : Option (DoipHookEntry σ) :=
  match point with
  | .routingActivation => some (.routingActivation priority (methods.activation method))
  | .diagnosticAck => some (.diagnosticAck priority (methods.ack method))
  | .frameRx => some (.frameRx priority (methods.frame method))
  | .frameTx => some (.frameTx priority (methods.frame method))
  | _ => none

def DoipMethods.plugin (methods : DoipMethods σ) (plugin : Plugin) : DoipPlugin σ where
  name := plugin.name
  priority := plugin.priority
  loadIndex := plugin.loadIndex
  hooks := plugin.decorated methods.form?

/-- A hook with what its method does. -/
def Hook.doipResolved (methods : BoundMethod → HookMethod σ ι) (hook : Hook) : DoipHook σ ι where
  priority := hook.priority
  loadIndex := hook.loadIndex
  pluginName := hook.pluginName
  method := methods hook.method

/-- A bucket of the dispatcher of the DoIP layer. -/
theorem sortBy_doipRegistered {methods : DoipMethods σ} {method : BoundMethod → HookMethod σ ι}
    {select : DoipHookEntry σ → Option (Option Int × HookMethod σ ι)} {point : Point}
    (hdoip : point.isUds = false) (hselect : Selects methods.form? select point method)
    (plugins : List Plugin) :
    Ladder.sortBy DoipHook.sortKey (doipRegistered (plugins.map methods.plugin) select) =
      (doipDispatcher plugins point).map (Hook.doipResolved method) := by
  unfold doipDispatcher doipRegistered
  rw [register_apply, hdoip, if_pos (by decide)]
  have hkey : (Hook.sortKey : Hook → _) = DoipHook.sortKey ∘ Hook.doipResolved method := rfl
  rw [hkey, ← Ladder.sortBy_map, List.map_flatMap, List.flatMap_map]
  congr 1
  refine List.flatMap_congr ?_
  intro plugin _
  rw [Plugin.hooksAt, List.map_map]
  exact filterMap_decorated hselect plugin _

/-- **The tables of the dispatcher** of a connection are those buckets. -/
theorem doipDispatcher_new (methods : DoipMethods σ) (plugins : List Plugin) :
    DoipDispatcher.new (plugins.map methods.plugin) =
      { routingActivation :=
          (doipDispatcher plugins .routingActivation).map (Hook.doipResolved methods.activation)
        diagnosticAck := (doipDispatcher plugins .diagnosticAck).map (Hook.doipResolved methods.ack)
        frameRx := (doipDispatcher plugins .frameRx).map (Hook.doipResolved methods.frame)
        frameTx := (doipDispatcher plugins .frameTx).map (Hook.doipResolved methods.frame) } := by
  unfold DoipDispatcher.new
  congr 1
  · refine sortBy_doipRegistered rfl ?_ plugins
    intro other priority m
    cases other <;> simp [DoipMethods.form?, DoipHookEntry.routingActivation?]
  · refine sortBy_doipRegistered rfl ?_ plugins
    intro other priority m
    cases other <;> simp [DoipMethods.form?, DoipHookEntry.diagnosticAck?]
  · refine sortBy_doipRegistered rfl ?_ plugins
    intro other priority m
    cases other <;> simp [DoipMethods.form?, DoipHookEntry.frameRx?]
  · refine sortBy_doipRegistered rfl ?_ plugins
    intro other priority m
    cases other <;> simp [DoipMethods.form?, DoipHookEntry.frameTx?]

end

end DoipPlayground.VirtualEcu.Registration
