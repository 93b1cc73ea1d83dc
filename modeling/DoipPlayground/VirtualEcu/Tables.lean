/-
  DoipPlayground.VirtualEcu.Tables
  ────────────────────────────────
  **FROM THE ITEMS OF A MAPPING TO THE ENTRIES OF A TABLE** (`_load_dids`,
  `_load_routines` and the cross-section checks of `config.py`).

  Keys of different YAML types may denote one identifier.  The DID loader
  looks for the second one, the routine loader does not; the sessions of
  the gates are checked for DIDs only.

    • `loadDidEntries_own` — every item of `data_identifiers` has its entry,
    • `loadRoutineEntries_own` — so has every item of `routines`, if no two
      keys denote one identifier,
    • `tables_faithful_iff` — when an accepted mapping is loaded faithfully.
-/
import DoipPlayground.VirtualEcu.Loader
import Mathlib.Data.List.Forall2
import Mathlib.Data.List.Nodup

namespace DoipPlayground.VirtualEcu.Loader

/-! ## §1. Own entries. -/

/-- The items of a section of the whole mapping. -/
def itemsOf (raw : Yaml) (name : String) : Load Section := do
  let raw ← topLevel raw
  sectionOf raw name

/-- The entry of an item: under the identifier its key denotes, with what
the loader makes of its value.  The field path is only for errors. -/
def Yields {α : Type} (load : Yaml → String → Load α) (item : Yaml × Yaml) (entry : Nat × α) :
    Prop :=
  ∃ path, toInt item.1 path = .ok (entry.1 : Int) ∧ load item.2 path = .ok entry.2

/-- Item for item an entry of its own. -/
structure OwnEntries {α : Type} (load : Yaml → String → Load α) (items : Section)
    (table : List (Nat × α)) : Prop where
  yields : List.Forall₂ (Yields load) items table
  distinct : (table.map Prod.fst).Nodup

/-- The session numbers of a gate are configured; no gate is no number. -/
def GateConfigured (uds : UdsConfig) (sessions : Option (List Int)) : Prop :=
  ∀ session ∈ sessions.getD [], session ∈ uds.sessions

/-- What faithful loading of the tables means. -/
structure TablesFaithful (raw : Yaml) (cfg : EcuConfig) : Prop where
  dids : ∃ items, itemsOf raw "data_identifiers" = .ok items ∧ OwnEntries loadDid items cfg.dids
  routines : ∃ items, itemsOf raw "routines" = .ok items
    ∧ OwnEntries loadRoutine items cfg.routines
  didGates : ∀ entry ∈ cfg.dids,
    GateConfigured cfg.uds entry.2.readSessions ∧ GateConfigured cfg.uds entry.2.writeSessions
  routineGates : ∀ entry ∈ cfg.routines, GateConfigured cfg.uds entry.2.sessions

/-! ## §2. What the routine loader leaves unchecked. -/

/-- The identifier a key denotes. -/
def identifier? (key : Yaml) : Option Int :=
  match toInt key "" with
  | .ok n => some n
  | .error _ => none

/-- The numbers of the `sessions` gate of a routine. -/
def sessionsOf (entry : Yaml) : List Int :=
  match entry with
  | .map entry =>
      match loadSessions entry "sessions" "" with
      | .ok sessions => sessions.getD []
      | .error _ => []
  | _ => []

/-- The conditions on the `routines` section alone. -/
structure RoutinesSound (raw : Yaml) : Prop where
  distinct : ∀ items, itemsOf raw "routines" = .ok items →
    items.Pairwise fun a b => identifier? a.1 ≠ identifier? b.1
  gates : ∀ items uds configured, itemsOf raw "routines" = .ok items →
    itemsOf raw "uds" = .ok uds → loadConfiguredSessions uds = .ok configured →
    ∀ item ∈ items, ∀ session ∈ sessionsOf item.2, session ∈ configured

/-! ## §3. Field paths decide nothing. -/

theorem toInt_path {value : Yaml} {path path' : String} {n : Int}
    (h : toInt value path = .ok n) : toInt value path' = .ok n := by
  unfold toInt at h ⊢
  cases value with
  | str text =>
      dsimp only at h ⊢
      cases hn : Python.intLiteral text.toList with
      | some m =>
          rw [hn] at h
          exact h
      | none =>
          rw [hn] at h
          cases h
  | int m => exact h
  | null => cases h
  | bool b => cases h
  | list items => cases h
  | map entries => cases h
  | other text => cases h

theorem toInts_path {path path' : String} {items : List Yaml} {index : Nat} {ns : List Int}
    (h : toInts path index items = .ok ns) : toInts path' index items = .ok ns := by
  induction items generalizing index ns with
  | nil => exact h
  | cons item rest ih =>
      obtain ⟨n, hn, h⟩ := bind_eq_ok.mp h
      obtain ⟨ms, hms, h⟩ := bind_eq_ok.mp h
      exact bind_eq_ok.mpr ⟨n, toInt_path hn, bind_eq_ok.mpr ⟨ms, ih hms, h⟩⟩

theorem loadSessions_path {entry : Section} {gate path path' : String}
    {sessions : Option (List Int)} (h : loadSessions entry gate path = .ok sessions) :
    loadSessions entry gate path' = .ok sessions := by
  unfold loadSessions at h ⊢
  split at h
  · exact h
  · exact h
  · rename_i value _ _
    obtain ⟨ns, hns, h⟩ := bind_eq_ok.mp h
    refine bind_eq_ok.mpr ⟨ns, ?_, h⟩
    cases value with
    | list items => exact toInts_path hns
    | null => cases hns
    | bool b => cases hns
    | int n => cases hns
    | str text => cases hns
    | map entries => cases hns
    | other text => cases hns

theorem identifier?_eq {key : Yaml} {path : String} {n : Int} (h : toInt key path = .ok n) :
    identifier? key = some n := by
  unfold identifier?
  rw [toInt_path h]

/-- The gate of a routine, as its entry has it. -/
theorem sessionsOf_eq {rawEntry : Yaml} {path : String} {spec : RoutineSpec}
    (h : loadRoutine rawEntry path = .ok spec) : sessionsOf rawEntry = spec.sessions.getD [] := by
  unfold loadRoutine at h
  split at h
  · obtain ⟨_, _, h⟩ := bind_eq_ok.mp h
    obtain ⟨start, _, h⟩ := bind_eq_ok.mp h
    obtain ⟨stop, _, h⟩ := bind_eq_ok.mp h
    obtain ⟨results, _, h⟩ := bind_eq_ok.mp h
    obtain ⟨security, _, h⟩ := bind_eq_ok.mp h
    obtain ⟨sessions, hsessions, h⟩ := bind_eq_ok.mp h
    cases h
    unfold sessionsOf
    dsimp only
    rw [loadSessions_path hsessions]
  · cases h

/-! ## §4. The two table loaders. -/

theorem nodup_keys_snoc {α : Type} {table : List (Nat × α)} {key : Nat}
    (htable : (table.map Prod.fst).Nodup) (hkey : key ∉ table.map Prod.fst) (value : α) :
    ((table ++ [(key, value)]).map Prod.fst).Nodup := by
  rw [List.map_append, List.map_singleton, ← List.concat_eq_append]
  exact htable.concat hkey

/-- The other end of a pair. -/
theorem exists_of_forall₂ {α β : Type} {R : α → β → Prop} {as : List α} {bs : List β}
    (h : List.Forall₂ R as bs) {a : α} (ha : a ∈ as) : ∃ b ∈ bs, R a b := by
  induction h with
  | nil => cases ha
  | cons hab _ ih =>
      rcases List.mem_cons.mp ha with rfl | ha
      · exact ⟨_, List.mem_cons_self .., hab⟩
      · obtain ⟨b, hb, hrel⟩ := ih ha
        exact ⟨b, List.mem_cons_of_mem _ hb, hrel⟩

/-- The DID loader gives every item an entry of its own. -/
theorem loadDidEntries_own {items : Section} {table result : List (Nat × DidSpec)}
    (h : loadDidEntries items table = .ok result) (htable : (table.map Prod.fst).Nodup) :
    ∃ new, result = table ++ new ∧ List.Forall₂ (Yields loadDid) items new
      ∧ (result.map Prod.fst).Nodup := by
  induction items generalizing table with
  | nil =>
      cases h
      exact ⟨[], (List.append_nil _).symm, .nil, htable⟩
  | cons item rest ih =>
      obtain ⟨key, value⟩ := item
      obtain ⟨did, hdid, h⟩ := bind_eq_ok.mp h
      obtain ⟨_, hrange, h⟩ := bind_eq_ok.mp h
      obtain ⟨_, hfresh, h⟩ := bind_eq_ok.mp h
      obtain ⟨spec, hspec, h⟩ := bind_eq_ok.mp h
      have hrange := Decidable.not_not.mp (reject_eq_ok.mp hrange)
      obtain ⟨new, rfl, hyields, hresult⟩ :=
        ih h (nodup_keys_snoc htable (reject_eq_ok.mp hfresh) spec)
      refine ⟨(did.toNat, spec) :: new, by simp, .cons ⟨_, ?_, hspec⟩ hyields, hresult⟩
      show toInt key _ = .ok ((did.toNat : Nat) : Int)
      rw [Int.toNat_of_nonneg hrange.1]
      exact hdid

/-- A routine whose identifier is not in the table yet is appended. -/
theorem assign_of_not_mem {table : List (Nat × RoutineSpec)} {rid : Nat} (spec : RoutineSpec)
    (h : rid ∉ table.map Prod.fst) : assign table rid spec = table ++ [(rid, spec)] := by
  unfold assign
  rw [if_neg h]

/-- So does the routine loader, as long as no two keys denote one identifier. -/
theorem loadRoutineEntries_own {items : Section} {table result : List (Nat × RoutineSpec)}
    (h : loadRoutineEntries items table = .ok result) (htable : (table.map Prod.fst).Nodup)
    (hdistinct : items.Pairwise fun a b => identifier? a.1 ≠ identifier? b.1)
    (hfresh : ∀ item ∈ items, ∀ rid ∈ table.map Prod.fst, identifier? item.1 ≠ some (rid : Int)) :
    ∃ new, result = table ++ new ∧ List.Forall₂ (Yields loadRoutine) items new
      ∧ (result.map Prod.fst).Nodup := by
  induction items generalizing table with
  | nil =>
      cases h
      exact ⟨[], (List.append_nil _).symm, .nil, htable⟩
  | cons item rest ih =>
      obtain ⟨key, value⟩ := item
      obtain ⟨rid, hrid, h⟩ := bind_eq_ok.mp h
      obtain ⟨_, hrange, h⟩ := bind_eq_ok.mp h
      obtain ⟨spec, hspec, h⟩ := bind_eq_ok.mp h
      have hrange := Decidable.not_not.mp (reject_eq_ok.mp hrange)
      have hcast : ((rid.toNat : Nat) : Int) = rid := Int.toNat_of_nonneg hrange.1
      have hid : identifier? key = some rid := identifier?_eq hrid
      obtain ⟨hhead, htail⟩ := List.pairwise_cons.mp hdistinct
      have hnew : rid.toNat ∉ table.map Prod.fst := by
        intro hmem
        exact hfresh (key, value) (List.mem_cons_self ..) _ hmem (by rw [hid, hcast])
      rw [assign_of_not_mem spec hnew] at h
      have hrest : ∀ item ∈ rest, ∀ other ∈ (table ++ [(rid.toNat, spec)]).map Prod.fst,
          identifier? item.1 ≠ some (other : Int) := by
        intro item hitem other hother
        rw [List.map_append, List.mem_append] at hother
        rcases hother with hold | hlast
        · exact hfresh item (List.mem_cons_of_mem _ hitem) other hold
        · rw [List.map_singleton, List.mem_singleton] at hlast
          rw [hlast, hcast, ← hid]
          exact (hhead item hitem).symm
      obtain ⟨new, rfl, hyields, hresult⟩ := ih h (nodup_keys_snoc htable hnew spec) htail hrest
      refine ⟨(rid.toNat, spec) :: new, by simp, .cons ⟨_, ?_, hspec⟩ hyields, hresult⟩
      show toInt key _ = .ok ((rid.toNat : Nat) : Int)
      rw [hcast]
      exact hrid

/-- Own entries come from keys that denote different identifiers. -/
theorem OwnEntries.pairwise {α : Type} {load : Yaml → String → Load α} {items : Section}
    {table : List (Nat × α)} (h : OwnEntries load items table) :
    items.Pairwise fun a b => identifier? a.1 ≠ identifier? b.1 := by
  obtain ⟨hyields, hnodup⟩ := h
  induction hyields with
  | nil => exact .nil
  | cons hitem hyields ih =>
      rename_i item entry rest table
      obtain ⟨_, hkey, _⟩ := hitem
      rw [List.map_cons, List.nodup_cons] at hnodup
      refine .cons ?_ (ih hnodup.2)
      intro other hother heq
      obtain ⟨entry', hentry', _, hkey', _⟩ := exists_of_forall₂ hyields hother
      rw [identifier?_eq hkey, identifier?_eq hkey', Option.some.injEq, Int.natCast_inj] at heq
      exact hnodup.1 (heq ▸ List.mem_map_of_mem hentry')

/-! ## §5. The cross-section checks. -/

/-- The sessions `uds` ends up with. -/
theorem loadUds_sessions {raw : Section} {uds : UdsConfig} {policy : HandlerErrorPolicy}
    (h : loadUds raw = .ok (uds, policy)) :
    ∃ section_, sectionOf raw "uds" = .ok section_
      ∧ loadConfiguredSessions section_ = .ok uds.sessions := by
  unfold loadUds at h
  obtain ⟨section_, hsection, h⟩ := bind_eq_ok.mp h
  refine ⟨section_, hsection, ?_⟩
  -- the fields before `sessions`
  iterate 15 obtain ⟨_, _, h⟩ := bind_eq_ok.mp h
  obtain ⟨sessions, hsessions, h⟩ := bind_eq_ok.mp h
  iterate 6 obtain ⟨_, _, h⟩ := bind_eq_ok.mp h
  cases h
  exact hsessions

theorem checkGateSessions_ok {uds : UdsConfig} {sessions : Option (List Int)} {path : String}
    {u : Unit} (h : checkGateSessions uds sessions path = .ok u) : GateConfigured uds sessions := by
  intro session hsession
  by_contra hother
  exact reject_eq_ok.mp h ⟨session, hsession, hother⟩

theorem checkDidSessions_ok {uds : UdsConfig} {table : List (Nat × DidSpec)} {u : Unit}
    (h : checkDidSessions uds table = .ok u) : ∀ entry ∈ table,
      GateConfigured uds entry.2.readSessions ∧ GateConfigured uds entry.2.writeSessions := by
  induction table with
  | nil =>
      intro entry hentry
      cases hentry
  | cons first rest ih =>
      obtain ⟨did, spec⟩ := first
      obtain ⟨_, hread, h⟩ := bind_eq_ok.mp h
      obtain ⟨_, hwrite, h⟩ := bind_eq_ok.mp h
      intro entry hentry
      rcases List.mem_cons.mp hentry with rfl | hentry
      · exact ⟨checkGateSessions_ok hread, checkGateSessions_ok hwrite⟩
      · exact ih h entry hentry

/-! ## §6. When the tables are faithful. -/

/-- **The tables of an accepted mapping** are faithful iff the routine loader
had nothing to look for: no two keys of `routines` denote one identifier, and
the sessions of its gates are configured. -/
theorem tables_faithful_iff (raw : Yaml) (cfg : EcuConfig) (h : parseConfig raw = .ok cfg) :
    TablesFaithful raw cfg ↔ RoutinesSound raw := by
  unfold parseConfig at h
  obtain ⟨mapping, hmapping, h⟩ := bind_eq_ok.mp h
  obtain ⟨listen, _, h⟩ := bind_eq_ok.mp h
  obtain ⟨doip, _, h⟩ := bind_eq_ok.mp h
  obtain ⟨udp, _, h⟩ := bind_eq_ok.mp h
  obtain ⟨⟨uds, policy⟩, huds, h⟩ := bind_eq_ok.mp h
  obtain ⟨dids, hdids, h⟩ := bind_eq_ok.mp h
  obtain ⟨routines, hroutines, h⟩ := bind_eq_ok.mp h
  obtain ⟨_, _, h⟩ := bind_eq_ok.mp h
  obtain ⟨_, hchecked, h⟩ := bind_eq_ok.mp h
  cases h
  have hitems : ∀ {name items}, sectionOf mapping name = .ok items → itemsOf raw name = .ok items :=
    fun hsection => bind_eq_ok.mpr ⟨mapping, hmapping, hsection⟩
  obtain ⟨didItems, hdidItems, hdids⟩ := bind_eq_ok.mp hdids
  obtain ⟨items, hroutineItems, hroutines⟩ := bind_eq_ok.mp hroutines
  obtain ⟨udsItems, hudsItems, hconfigured⟩ := loadUds_sessions huds
  have hdidItems := hitems hdidItems
  have hroutineItems := hitems hroutineItems
  have hudsItems := hitems hudsItems
  constructor
  · intro hfaithful
    obtain ⟨items', hitems', hown⟩ := hfaithful.routines
    rw [hroutineItems] at hitems'
    cases hitems'
    refine ⟨?_, ?_⟩
    · intro items' hitems'
      rw [hroutineItems] at hitems'
      cases hitems'
      exact hown.pairwise
    · intro items' uds' configured hitems' huds' hconfigured' item hitem session hsession
      rw [hroutineItems] at hitems'
      cases hitems'
      rw [hudsItems] at huds'
      cases huds'
      rw [hconfigured] at hconfigured'
      cases hconfigured'
      obtain ⟨entry, hentry, _, _, hspec⟩ := exists_of_forall₂ hown.yields hitem
      rw [sessionsOf_eq hspec] at hsession
      exact hfaithful.routineGates entry hentry session hsession
  · intro hsound
    obtain ⟨didTable, rfl, hdidYields, hdidDistinct⟩ := loadDidEntries_own hdids List.nodup_nil
    obtain ⟨table, rfl, hyields, hdistinct⟩ :=
      loadRoutineEntries_own hroutines List.nodup_nil (hsound.distinct items hroutineItems)
        (fun _ _ _ hnone => absurd hnone List.not_mem_nil)
    refine ⟨⟨didItems, hdidItems, hdidYields, hdidDistinct⟩,
      ⟨items, hroutineItems, hyields, hdistinct⟩, checkDidSessions_ok hchecked, ?_⟩
    intro entry hentry session hsession
    obtain ⟨item, hitem, _, _, hspec⟩ := exists_of_forall₂ hyields.flip hentry
    rw [← sessionsOf_eq hspec] at hsession
    exact hsound.gates items udsItems uds.sessions hroutineItems hudsItems hconfigured item hitem
      session hsession

/-- One routine, in the extended session only. -/
def gatedRoutine : Yaml :=
  .map [(.str "routines", .map [(.int 0x0203, .map [(.str "sessions", .list [.int 0x03])])])]

/-- It is loaded faithfully. -/
theorem gatedRoutine_faithful : ∃ cfg, parseConfig gatedRoutine = .ok cfg
    ∧ TablesFaithful gatedRoutine cfg := by
  have hrun : (match parseConfig gatedRoutine with
      | .ok _ => true
      | .error _ => false) = true := by decide
  cases h : parseConfig gatedRoutine with
  | error e =>
      rw [h] at hrun
      cases hrun
  | ok cfg =>
      refine ⟨cfg, rfl, (tables_faithful_iff gatedRoutine cfg h).mpr ⟨?_, ?_⟩⟩
      · intro items hitems
        cases hitems
        exact List.pairwise_singleton _ _
      · intro items uds configured hitems huds hconfigured item hitem session hsession
        cases hitems
        cases huds
        cases hconfigured
        rw [List.mem_singleton.mp hitem] at hsession
        rw [List.mem_singleton.mp hsession]
        decide

/-- One identifier as a number and as a text. -/
def twiceDenoted : Yaml :=
  .map [(.str "routines", .map
    [(.int 0x0203, .map [(.str "start", .str "01")]),
     (.str "0x0203", .map [(.str "start", .str "02")])])]

/-- It is accepted, and the two items share one entry. -/
theorem twiceDenoted_merged : ∃ cfg, parseConfig twiceDenoted = .ok cfg
    ∧ cfg.routines.map Prod.fst = [0x0203] ∧ ¬ TablesFaithful twiceDenoted cfg := by
  have hrun : (match parseConfig twiceDenoted with
      | .ok cfg => decide (cfg.routines.map Prod.fst = [0x0203])
      | .error _ => false) = true := by decide
  cases h : parseConfig twiceDenoted with
  | error e =>
      rw [h] at hrun
      cases hrun
  | ok cfg =>
      rw [h] at hrun
      have hkeys := of_decide_eq_true hrun
      refine ⟨cfg, rfl, hkeys, ?_⟩
      intro hfaithful
      obtain ⟨items, hitems, hyields, _⟩ := hfaithful.routines
      cases hitems
      have htwo : 2 = cfg.routines.length := hyields.length_eq
      rw [← List.length_map Prod.fst, hkeys] at htwo
      exact absurd htwo (by decide)

-- A session that is not configured passes in the gate of a routine.
example : (match parseConfig (.map [(.str "routines", .map
      [(.int 0x0203, .map [(.str "sessions", .list [.int 0x55])])])]) with
    | .ok cfg => decide (cfg.routines.map (fun entry => entry.2.sessions) = [some [0x55]])
        && decide (0x55 ∉ cfg.uds.sessions)
    | .error _ => false) = true := by decide

end DoipPlayground.VirtualEcu.Loader
