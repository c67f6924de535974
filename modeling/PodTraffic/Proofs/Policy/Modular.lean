import PodTraffic.Proofs.Policy.Union

/-!
# Compiling manifest by manifest

A list compiles when each of its manifests compiles alone, and fails as the first that does not. Its
targets are those of the manifests, united by key in list order, so that another order of the list
gives the same targets with their peers and sources in another order.
-/
namespace PodTraffic

namespace NetworkPolicy

/-- The key of the target that the policy gives in a direction that its types name. -/
def targetKey? (m : NetworkPolicy) (d : Direction) : Option String :=
  (m.spec.filter fun spec => (spec.policyTypes.getD []).contains d.title).map fun spec =>
    Target.keyOf m.ns spec.podSelector

/-- The policies of a list that give a target of the key, with their positions. -/
def givers (manifests : List NetworkPolicy) (d : Direction) (key : String) :
    List (NetworkPolicy × Nat) :=
  manifests.zipIdx.filter fun source => source.1.targetKey? d == some key

section Givers

variable {manifests manifests' : List NetworkPolicy} {d : Direction} {key : String}

theorem mem_givers {source : NetworkPolicy × Nat} : source ∈ givers manifests d key ↔
    manifests[source.2]? = some source.1 ∧ source.1.targetKey? d = some key := by
  rw [givers, List.mem_filter, List.mem_zipIdx_iff_getElem?, beq_iff_eq]

theorem map_fst_givers : (givers manifests d key).map (·.1) =
    manifests.filter fun m => m.targetKey? d == some key := by
  have hfilter : (manifests.zipIdx.map (·.1)).filter (fun m => m.targetKey? d == some key) =
      (givers manifests d key).map (·.1) := by
    rw [List.filter_map]
    rfl
  rw [← hfilter, List.zipIdx_map_fst]

theorem givers_perm (h : manifests.Perm manifests') :
    ((givers manifests d key).map (·.1)).Perm ((givers manifests' d key).map (·.1)) := by
  rw [map_fst_givers, map_fst_givers]
  exact h.filter _

theorem givers_ne_nil_iff :
    givers manifests d key ≠ [] ↔ ∃ m ∈ manifests, m.targetKey? d = some key := by
  rw [ne_eq, ← List.map_eq_nil_iff (f := Prod.fst), map_fst_givers, List.filter_eq_nil_iff]
  simp

/-- Positions grow along the list. -/
theorem pairwise_givers :
    ((givers manifests d key).map (·.2)).Pairwise (· < ·) := by
  have hall : (manifests.zipIdx.map (·.2)).Pairwise (· < ·) := by
    rw [List.zipIdx_map_snd]
    exact List.pairwise_lt_range'
  exact hall.sublist (List.filter_sublist.map _)

end Givers

section Faults

variable {p : NetworkPolicy} {manifests : List NetworkPolicy} {e : PolicyError}

theorem setNamed_failAlike (source source' : Nat) (spec : PolicySpec) (pair pair' : TargetPair)
    (name : String) :
    Fallible.FailAlike (p.setNamed source spec pair name) (p.setNamed source' spec pair' name) := by
  unfold setNamed
  cases Direction.ofTitle? name with
  | none => exact .refl _
  | some d =>
    refine Fallible.FailAlike.map ?_ _ _
    exact (Fallible.FailAlike.refl _).map _ _

/-- A policy has the same fault wherever it stands in a list. -/
theorem targets_failAlike (source source' : Nat) :
    Fallible.FailAlike (p.targets source) (p.targets source') := by
  unfold targets
  cases p.spec with
  | none => exact .refl _
  | some spec =>
    simp only []
    split
    · exact .refl _
    · exact .foldlM (fun pair pair' name => setNamed_failAlike source source' spec pair pair' name)
        _ _ _

end Faults

/-- The target is the one that the policy gives at its position. -/
structure Gives (source : NetworkPolicy × Nat) (d : Direction) (t : Target) : Prop where
  key : source.1.targetKey? d = some t.key
  sources : t.sources = [source.2]
  peers : source.1.expansion d = .ok t.peers

section Gives

variable {source : NetworkPolicy × Nat} {pair : TargetPair} {d : Direction}

theorem gives_of_get {t : Target} (h : source.1.targets source.2 = .ok pair)
    (hget : pair.get d = some t) : Gives source d t := by
  obtain ⟨m, i⟩ := source
  obtain ⟨spec, hspec, hdirections⟩ := targets_eq_ok h
  obtain ⟨hnamed, hunnamed⟩ := hdirections d
  by_cases hd : d.title ∈ spec.policyTypes.getD []
  · obtain ⟨t', ht', hget'⟩ := hnamed hd
    obtain rfl : t = t' := by simpa [hget] using hget'
    have hpeers := expansion_of_target hspec ht'
    obtain ⟨peers, -, rfl⟩ := target_eq_ok ht'
    refine ⟨?_, rfl, hpeers⟩
    simp only [] at hspec
    simp [targetKey?, hspec, hd, Target.key]
  · simp [hunnamed hd] at hget

theorem targetKey?_of_get_eq_none (h : source.1.targets source.2 = .ok pair)
    (hget : pair.get d = none) : source.1.targetKey? d = none := by
  obtain ⟨m, i⟩ := source
  obtain ⟨spec, hspec, hdirections⟩ := targets_eq_ok h
  obtain ⟨hnamed, hunnamed⟩ := hdirections d
  have hd : d.title ∉ spec.policyTypes.getD [] := by
    intro hd
    obtain ⟨t, -, hget'⟩ := hnamed hd
    simp [hget] at hget'
  simp only [] at hspec
  simp [targetKey?, hspec, hd]

/-- The targets of a key stand in the order of the policies that give them. -/
theorem forall₂_gives {sources : List (NetworkPolicy × Nat)} {pairs : List TargetPair}
    (h : List.Forall₂ (fun source pair => source.1.targets source.2 = .ok pair) sources pairs)
    (d : Direction) (key : String) :
    List.Forall₂ (fun source t => Gives source d t)
      (sources.filter fun source => source.1.targetKey? d == some key)
      ((pairs.filterMap (·.get d)).filter (·.key == key)) := by
  induction h with
  | nil => exact .nil
  | @cons source pair sources pairs hpair _ ih =>
    cases hget : pair.get d with
    | none =>
      have hkey := targetKey?_of_get_eq_none hpair hget
      simpa [hget, hkey] using ih
    | some t =>
      have hgives := gives_of_get hpair hget
      by_cases hkey : t.key = key
      · simpa [hget, hgives.key, hkey] using ⟨hgives, ih⟩
      · simpa [hget, hgives.key, hkey] using ih

end Gives

end NetworkPolicy

namespace Target

theorem peers_foldl_union (ts : List Target) (t : Target) :
    (ts.foldl union t).peers = t.peers ++ ts.flatMap (·.peers) := by
  induction ts generalizing t with
  | nil => simp
  | cons u rest ih =>
    rw [List.foldl_cons, ih, List.flatMap_cons, ← List.append_assoc]
    rfl

theorem key_foldl_union (ts : List Target) (t : Target) : (ts.foldl union t).key = t.key := by
  induction ts generalizing t with
  | nil => rfl
  | cons u rest ih =>
    rw [List.foldl_cons, ih]
    rfl

theorem sources_union {t u : Target} (h : (t.sources ++ u.sources).Nodup) :
    (t.union u).sources = t.sources ++ u.sources := by
  change u.sources.foldl _ t.sources = _
  generalize t.sources = present at h ⊢
  generalize u.sources = added at h ⊢
  induction added generalizing present with
  | nil => simp
  | cons i rest ih =>
    have hi : i ∉ present := fun hi => List.disjoint_of_nodup_append h hi List.mem_cons_self
    have hnext : ((present ++ [i]) ++ rest).Nodup := by simpa using h
    rw [List.foldl_cons, if_neg (by simpa using hi), ih _ hnext, List.append_assoc,
      List.singleton_append]

/-- Sources that are all different are listed one after another. -/
theorem sources_foldl_union {ts : List Target} {t : Target}
    (h : (t.sources ++ ts.flatMap (·.sources)).Nodup) :
    (ts.foldl union t).sources = t.sources ++ ts.flatMap (·.sources) := by
  induction ts generalizing t with
  | nil => simp
  | cons u rest ih =>
    rw [List.flatMap_cons, ← List.append_assoc] at h ⊢
    have hunion := sources_union (List.nodup_append.mp h).1
    rw [List.foldl_cons, ih (by rwa [hunion]), hunion]

/-- The union of what the policies of a list give under a key, in list order. -/
structure Unites (t : Target) (manifests : List NetworkPolicy) (d : Direction) (key : String) :
    Prop where
  key_eq : t.key = key
  sources : t.sources = (NetworkPolicy.givers manifests d key).map (·.2)
  increasing : t.sources.Pairwise (· < ·)
  peers : List.flatten <$> (manifests.filter fun m => m.targetKey? d == some key).mapM
    (·.expansion d) = .ok t.peers
  /-- It lets through what a rule of one of these policies admits. -/
  allows : ∀ peer q, t.allows peer q = true ↔
    ∃ m ∈ manifests, m.targetKey? d = some key ∧ m.Admits d peer q

section Unites

variable {manifests manifests' : List NetworkPolicy} {d : Direction} {key : String} {t t' : Target}

theorem flatMap_sources_of_gives {sources : List (NetworkPolicy × Nat)} {ts : List Target}
    (h : List.Forall₂ (fun source t => NetworkPolicy.Gives source d t) sources ts) :
    ts.flatMap (·.sources) = sources.map (·.2) := by
  induction h with
  | nil => rfl
  | cons hgive _ ih =>
    rw [List.flatMap_cons, hgive.sources, ih, List.map_cons, List.singleton_append]

theorem allows_of_expansions {expansions : List (List PeerMatcher)}
    (h : (manifests.filter fun m => m.targetKey? d == some key).mapM (·.expansion d) =
      .ok expansions) (hpeers : t.peers = expansions.flatten) (peer : Endpoint) (q : PortQuery) :
    t.allows peer q = true ↔ ∃ m ∈ manifests, m.targetKey? d = some key ∧ m.Admits d peer q := by
  have hmembers := Fallible.mapM_eq_ok_iff.mp h
  have hany : t.allows peer q = true ↔ ∃ ms ∈ expansions, ms.any (·.allows peer q) = true := by
    simp [Target.allows, hpeers]
  rw [hany]
  constructor
  · rintro ⟨ms, hms, hallows⟩
    obtain ⟨m, hm, hexpansion⟩ := Fallible.mem_of_forall₂ hmembers hms
    obtain ⟨hm, hkey⟩ := List.mem_filter.mp hm
    exact ⟨m, hm, beq_iff_eq.mp hkey,
      (NetworkPolicy.any_allows_expansion hexpansion peer q).mp hallows⟩
  · rintro ⟨m, hm, hkey, hadmits⟩
    obtain ⟨ms, hms, hexpansion⟩ :=
      Fallible.exists_of_forall₂ hmembers (List.mem_filter.mpr ⟨hm, beq_iff_eq.mpr hkey⟩)
    exact ⟨ms, hms, (NetworkPolicy.any_allows_expansion hexpansion peer q).mpr hadmits⟩

theorem unites_of_unite? {ts : List Target}
    (hgives : List.Forall₂ (fun source t => NetworkPolicy.Gives source d t)
      (NetworkPolicy.givers manifests d key) ts)
    (hkeys : ∀ u ∈ ts, u.key = key) (h : unite? ts = some t) : t.Unites manifests d key := by
  have hsources := flatMap_sources_of_gives hgives
  have hincreasing : (ts.flatMap (·.sources)).Pairwise (· < ·) :=
    hsources ▸ NetworkPolicy.pairwise_givers
  have hnodup : (ts.flatMap (·.sources)).Nodup := hincreasing.imp Nat.ne_of_lt
  have hexpansions : (manifests.filter fun m => m.targetKey? d == some key).mapM
      (·.expansion d) = .ok (ts.map (·.peers)) := by
    rw [← NetworkPolicy.map_fst_givers, Fallible.mapM_eq_ok_iff, List.forall₂_map_left_iff,
      List.forall₂_map_right_iff]
    exact hgives.imp fun _ _ hgive => hgive.peers
  cases ts with
  | nil => cases h
  | cons first rest =>
    cases h
    have hunion : (rest.foldl union first).sources = (first :: rest).flatMap (·.sources) :=
      sources_foldl_union (by simpa using hnodup)
    have hpeers : (rest.foldl union first).peers = ((first :: rest).map (·.peers)).flatten := by
      simp [peers_foldl_union, List.flatMap]
    refine ⟨?_, hunion.trans hsources, hunion ▸ hincreasing, ?_,
      allows_of_expansions hexpansions hpeers⟩
    · rw [key_foldl_union]
      exact hkeys first List.mem_cons_self
    · exact Fallible.map_eq_ok_iff.mpr ⟨_, hexpansions, hpeers.symm⟩

/-- Of the same policies in another order, the unions have the same peers and sources. -/
theorem Unites.perm (h : t.Unites manifests d key) (h' : t'.Unites manifests' d key)
    (hperm : manifests.Perm manifests') : t.peers.Perm t'.peers ∧
      (t.sources.map (manifests[·]?)).Perm (t'.sources.map (manifests'[·]?)) := by
  constructor
  · obtain ⟨expansions, hexpansions, hpeers⟩ := Fallible.map_eq_ok_iff.mp h.peers
    obtain ⟨expansions', hexpansions', hpeers'⟩ := Fallible.map_eq_ok_iff.mp h'.peers
    rw [← hpeers, ← hpeers']
    rw [Fallible.mapM_eq_ok_iff] at hexpansions hexpansions'
    have hright : Relator.RightUnique fun (m : NetworkPolicy) peers =>
        m.expansion d = .ok peers := by
      intro m peers peers' hpeers hpeers'
      exact Except.ok.inj (hpeers.symm.trans hpeers')
    exact (List.rel_perm_imp hright hexpansions hexpansions' (hperm.filter _)).flatten
  · have hsources : ∀ {ms : List NetworkPolicy} {u : Target}, u.Unites ms d key →
        u.sources.map (ms[·]?) = ((NetworkPolicy.givers ms d key).map (·.1)).map some := by
      intro ms u hu
      rw [hu.sources, List.map_map, List.map_map]
      exact List.map_congr_left fun source hsource => (NetworkPolicy.mem_givers.mp hsource).1
    rw [hsources h, hsources h']
    exact (NetworkPolicy.givers_perm hperm).map some

end Unites

end Target

namespace Policy

variable {manifests manifests' : List NetworkPolicy} {p p' : Policy} {d : Direction} {key : String}

theorem build_false (manifests : List NetworkPolicy) :
    build false manifests = compile manifests := by
  unfold build
  cases compile manifests <;> rfl

theorem compile_singleton_failAlike (m : NetworkPolicy) (i : Nat) :
    Fallible.FailAlike (compile [m]) (m.targets i) := by
  intro e
  change [(m, 0)].foldlM addManifest _ = _ ↔ _
  rw [List.foldlM_cons, Fallible.bind_eq_error_iff, addManifest, Fallible.map_eq_error_iff,
    m.targets_failAlike 0 i e]
  simp [pure, Except.pure]

theorem exists_compile_iff_each : (∃ p, compile manifests = .ok p) ↔
    ∀ m ∈ manifests, ∃ p, compile [m] = .ok p := by
  constructor
  · intro h m hm
    obtain ⟨i, hi, rfl⟩ := List.mem_iff_getElem.mp hm
    have hsource : (manifests[i], i) ∈ manifests.zipIdx :=
      List.mem_zipIdx_iff_getElem?.mpr (List.getElem?_eq_getElem hi)
    obtain ⟨pair, hpair⟩ := exists_compile_eq_ok_iff.mp h _ hsource
    exact (compile_singleton_failAlike _ i).symm.exists_ok hpair
  · exact exists_compile_of_each

/-- The first manifest with a fault decides the error. -/
theorem compile_eq_error_iff {e : PolicyError} : compile manifests = .error e ↔
    ∃ before m after, manifests = before ++ m :: after ∧
      (∀ q ∈ before, ∃ p, compile [q] = .ok p) ∧ compile [m] = .error e := by
  refine Fallible.foldlM_map_eq_error_iff.trans ⟨?_, ?_⟩
  · intro h
    obtain ⟨before, ⟨m, i⟩, after, hsplit, hbefore, hm⟩ := h
    refine ⟨before.map (·.1), m, after.map (·.1), ?_, ?_, ?_⟩
    · simpa using congrArg (List.map (·.1)) hsplit
    · intro q hq
      obtain ⟨source, hsource, rfl⟩ := List.mem_map.mp hq
      obtain ⟨pair, hpair⟩ := hbefore source hsource
      exact (compile_singleton_failAlike _ source.2).symm.exists_ok hpair
    · exact (compile_singleton_failAlike m i e).mpr hm
  · intro h
    obtain ⟨before, m, after, rfl, hbefore, hm⟩ := h
    refine ⟨before.zipIdx, (m, before.length), after.zipIdx (before.length + 1), ?_, ?_, ?_⟩
    · rw [List.zipIdx_append, List.zipIdx_cons, Nat.zero_add]
    · intro source hsource
      obtain ⟨q, hq⟩ := hbefore source.1 (List.fst_mem_of_mem_zipIdx hsource)
      exact (compile_singleton_failAlike _ source.2).exists_ok hq
    · exact (compile_singleton_failAlike m _ e).mp hm

theorem unites_of_target? {t : Target} (h : compile manifests = .ok p)
    (ht : p.target? d key = some t) : t.Unites manifests d key := by
  obtain ⟨pairs, hpairs, -, htargets⟩ := compile_eq_ok h
  rw [target?, htargets, TargetMap.get?_ofTargets] at ht
  refine Target.unites_of_unite? (NetworkPolicy.forall₂_gives hpairs d key) ?_ ht
  intro u hu
  exact eq_of_beq (List.mem_filter.mp hu).2

theorem mem_keys_of_compile (h : compile manifests = .ok p) :
    key ∈ (p.targetMap d).keys ↔ ∃ m ∈ manifests, m.targetKey? d = some key := by
  obtain ⟨pairs, hpairs, -, htargets⟩ := compile_eq_ok h
  have hlength := (NetworkPolicy.forall₂_gives hpairs d key).length_eq
  rw [← NetworkPolicy.givers_ne_nil_iff, SortedMap.mem_keys_iff, htargets]
  simp only [TargetMap.get?_ofTargets]
  change _ ↔ manifests.zipIdx.filter _ ≠ []
  rw [← List.length_pos_iff, hlength, List.length_pos_iff]
  cases (pairs.filterMap (·.get d)).filter (·.key == key) with
  | nil => simp [Target.unite?]
  | cons u rest => simp [Target.unite?]

theorem perm_of_compile (h : compile manifests = .ok p) (h' : compile manifests' = .ok p')
    (hperm : manifests.Perm manifests') (d : Direction) :
    (p.targetMap d).keys = (p'.targetMap d).keys ∧ ∀ key t t', p.target? d key = some t →
      p'.target? d key = some t' → t.peers.Perm t'.peers ∧
        (t.sources.map (manifests[·]?)).Perm (t'.sources.map (manifests'[·]?)) := by
  constructor
  · refine SortedMap.keys_eq_of_mem_iff fun key => ?_
    rw [mem_keys_of_compile h, mem_keys_of_compile h']
    simp only [hperm.mem_iff]
  · intro key t t' ht ht'
    exact (unites_of_target? h ht).perm (unites_of_target? h' ht') hperm

/-- A list compiles manifest by manifest, or fails as the first that does not compile. Every
manifest keeps its place among the sources and its peers in the target of its key, and the order of
the list decides nothing but their order. -/
theorem build_modular (manifests : List NetworkPolicy) :
    ((∃ p, build false manifests = .ok p) ↔ ∀ m ∈ manifests, ∃ p, build false [m] = .ok p) ∧
    (∀ e, build false manifests = .error e ↔ ∃ before m after, manifests = before ++ m :: after ∧
      (∀ q ∈ before, ∃ p, build false [q] = .ok p) ∧ build false [m] = .error e) ∧
    (∀ p, build false manifests = .ok p → p.sources = manifests ∧ ∀ d key,
      (key ∈ (p.targetMap d).keys ↔ ∃ m ∈ manifests, m.targetKey? d = some key) ∧
        ∀ t, p.target? d key = some t → t.Unites manifests d key) ∧
    ∀ manifests', manifests.Perm manifests' →
      ((∃ p, build false manifests = .ok p) ↔ ∃ p, build false manifests' = .ok p) ∧
      ∀ p p', build false manifests = .ok p → build false manifests' = .ok p' → ∀ d,
        (p.targetMap d).keys = (p'.targetMap d).keys ∧
        ∀ key t t', p.target? d key = some t → p'.target? d key = some t' →
          t.peers.Perm t'.peers ∧
            (t.sources.map (manifests[·]?)).Perm (t'.sources.map (manifests'[·]?)) := by
  simp only [build_false]
  refine ⟨exists_compile_iff_each, fun e => compile_eq_error_iff, fun p hp => ?_,
    fun manifests' hperm => ⟨?_, fun p p' hp hp' => perm_of_compile hp hp' hperm⟩⟩
  · obtain ⟨-, -, hsources, -⟩ := compile_eq_ok hp
    exact ⟨hsources, fun d key => ⟨mem_keys_of_compile hp, fun t => unites_of_target? hp⟩⟩
  · rw [exists_compile_iff_each, exists_compile_iff_each]
    simp only [hperm.mem_iff]

/-- Two policies of one selector, the second of which names a type twice, around one of both
directions: in either order the first key unites two of them. -/
theorem build_modular_reversed :
    let web (rules : List Rule) (types : List String) : NetworkPolicy := ⟨{ ns := some "x" }, some
      { podSelector := { matchLabels := some (SortedMap.empty.insert "pod" "a") }
        policyTypes := some types, ingress := some rules }⟩
    let closed := web [] ["Ingress"]
    let both : NetworkPolicy := ⟨{}, some { policyTypes := some ["Ingress", "Egress"] }⟩
    let opened := web [{ ports := some [{ port := some (.int 80) }] }] ["Ingress", "Ingress"]
    let key := Target.keyOf "x" { matchLabels := some (SortedMap.empty.insert "pod" "a") }
    ∃ p p' t t', build false [closed, both, opened] = .ok p ∧
      build false [opened, both, closed] = .ok p' ∧
      p.target? .ingress key = some t ∧ p'.target? .ingress key = some t' ∧
      t.sources = [0, 2] ∧ t.Unites [closed, both, opened] .ingress key ∧
      t.peers.Perm t'.peers ∧ (p.targetMap .egress).keys = (p'.targetMap .egress).keys := by
  intro web closed both opened key
  obtain ⟨p, hp⟩ : ∃ p, build false [closed, both, opened] = .ok p := ⟨_, rfl⟩
  obtain ⟨p', hp'⟩ : ∃ p', build false [opened, both, closed] = .ok p' := ⟨_, rfl⟩
  have hperm : [closed, both, opened].Perm [opened, both, closed] :=
    (List.reverse_perm [closed, both, opened]).symm
  obtain ⟨-, -, hunites, horder⟩ := build_modular [closed, both, opened]
  obtain ⟨-, hsame⟩ := horder _ hperm
  obtain ⟨-, hkeys⟩ := hunites p hp
  obtain ⟨-, -, hunites', -⟩ := build_modular [opened, both, closed]
  obtain ⟨-, hkeys'⟩ := hunites' p' hp'
  have hkey : closed.targetKey? .ingress = some key := by decide
  obtain ⟨t, ht⟩ := SortedMap.mem_keys_iff.mp ((hkeys .ingress key).1.mpr ⟨closed, by simp, hkey⟩)
  obtain ⟨t', ht'⟩ :=
    SortedMap.mem_keys_iff.mp ((hkeys' .ingress key).1.mpr ⟨closed, by simp, hkey⟩)
  have hunion := (hkeys .ingress key).2 t ht
  have hgivers : (NetworkPolicy.givers [closed, both, opened] .ingress key).map (·.2) = [0, 2] := by
    decide
  exact ⟨p, p', t, t', hp, hp', ht, ht', hunion.sources.trans hgivers, hunion,
    ((hsame p p' hp hp' .ingress).2 key t t' ht ht').1, (hsame p p' hp hp' .egress).1⟩

end Policy
end PodTraffic
