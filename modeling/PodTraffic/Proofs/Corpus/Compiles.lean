import PodTraffic.CommandLine.Run
import PodTraffic.Proofs.Address.RoundTrip
import PodTraffic.Proofs.Corpus
import PodTraffic.Proofs.Policy.Valid
import PodTraffic.Proofs.Port

/-!
# The policies of the corpus compile

Every policy of the corpus is written part by part from the ports, protocols, names and the address
that the corpus is given. Its parts can be read, whatever they are made from, but for the port of
name lookups: it is taken as it is given.
-/
namespace PodTraffic

namespace PortRule

theorem valid_numbered_iff {port : Nat} {protocol : Option Protocol} :
    (numbered port protocol).Valid ↔ 1 ≤ port ∧ port ≤ maxPort := by
  have hprotocol : ∀ name, protocol.map (·.name) = some name →
      ∃ p, Protocol.read? name = some p := by
    intro name h
    obtain ⟨p, -, rfl⟩ := Option.map_eq_some_iff.mp h
    exact ⟨p, p.read?_name⟩
  constructor
  · intro h
    obtain ⟨hfirst, hmax⟩ : 1 ≤ (port : Int) ∧ (port : Int) ≤ maxPort := h.port
    exact ⟨by omega, by omega⟩
  · intro h
    exact ⟨hprotocol, show 1 ≤ (port : Int) ∧ (port : Int) ≤ maxPort by omega⟩

theorem valid_named {name : String} (h : name ≠ "") (protocol : Protocol) :
    (named name protocol).Valid := by
  refine ⟨fun text htext => ?_, h⟩
  cases htext
  exact ⟨protocol, protocol.read?_name⟩

theorem valid_everyPort (protocol : Protocol) : (everyPort protocol).Valid := by
  refine ⟨fun text htext => ?_, trivial⟩
  cases htext
  exact ⟨protocol, protocol.read?_name⟩

theorem valid_range {first last : Nat} (hfirst : 1 ≤ first) (hle : first ≤ last)
    (hmax : last ≤ maxPort) (protocol : Protocol) : (range first last protocol).Valid := by
  refine ⟨fun text htext => ?_,
    show 1 ≤ (first : Int) ∧ (first : Int) ≤ last ∧ (last : Int) ≤ maxPort by omega⟩
  cases htext
  exact ⟨protocol, protocol.read?_name⟩

end PortRule

namespace PeerRule

theorem valid_pods (namespaces pods : Option LabelSelector) :
    (PeerRule.pods namespaces pods).Valid :=
  nofun

theorem valid_block (n : Network) (except : List Network) :
    (block n.text (except.map (·.text))).Valid := by
  intro b hb
  cases hb
  refine ⟨⟨rfl, rfl⟩, ⟨n, n.readNetwork_text⟩, fun text htext => ?_⟩
  have hmem : text ∈ except.map (·.text) := by
    split at htext
    · cases htext
    · exact htext
  obtain ⟨n', -, rfl⟩ := List.mem_map.mp hmem
  exact ⟨n', n'.readNetwork_text⟩

end PeerRule

namespace Rule

theorem valid_everything : everything.Valid := ⟨nofun, nofun⟩

theorem valid_onPorts {ports : List PortRule} (h : ∀ entry ∈ ports, entry.Valid) :
    (onPorts ports).Valid := ⟨h, nofun⟩

theorem valid_withPeers {peers : List PeerRule} (h : ∀ entry ∈ peers, entry.Valid) :
    (withPeers peers).Valid := ⟨nofun, h⟩

theorem valid_dns_iff {port : Nat} : (dns port).Valid ↔ 1 ≤ port ∧ port ≤ maxPort := by
  constructor
  · intro h
    exact PortRule.valid_numbered_iff.mp (h.ports _ List.mem_cons_self)
  · intro h
    refine valid_onPorts fun entry hentry => ?_
    rcases List.mem_pair.mp hentry with rfl | rfl <;> exact PortRule.valid_numbered_iff.mpr h

end Rule

theorem Direction.exists_title_iff {P : Direction → Prop} (d : Direction) :
    (∃ d', d.title = d'.title ∧ P d') ↔ P d := by
  constructor
  · intro h
    obtain ⟨d', htitle, h⟩ := h
    have hd : d = d' := by
      cases d <;> cases d' <;> first | rfl | exact absurd htitle (by decide)
    exact hd ▸ h
  · intro h
    exact ⟨d, rfl, h⟩

theorem NetworkPolicy.valid_iff {p : NetworkPolicy} (spec : PolicySpec) (ds : List Direction)
    (hspec : p.spec = some spec) (htypes : spec.policyTypes = some (ds.map (·.title)))
    (hne : ds ≠ []) : p.Valid ↔ ∀ d ∈ ds, ∀ rule ∈ spec.rules d, rule.Valid := by
  simp [Valid, hspec, htypes, hne, Direction.exists_title_iff]

namespace Draft

/-- The rules of both directions. -/
def rules (d : Draft) : List Rule := d.ingress.join.getD [] ++ d.egress.join.getD []

/-- A draft compiles exactly when its rules can be read. -/
theorem valid_policy_iff (d : Draft) :
    d.policy.withDefaultTypes.Valid ↔ ∀ rule ∈ d.rules, rule.Valid := by
  obtain ⟨ns, name, target, ingress, egress⟩ := d
  cases ingress with
  | none =>
    cases egress with
    | none =>
      rw [NetworkPolicy.valid_iff ⟨target, some ["Ingress"], none, none⟩ [.ingress] rfl rfl nofun]
      simp [rules, PolicySpec.rules, PolicySpec.rules?]
    | some egress =>
      rw [NetworkPolicy.valid_iff ⟨target, some ["Egress"], none, egress⟩ [.egress] rfl rfl nofun]
      simp [rules, PolicySpec.rules, PolicySpec.rules?]
  | some ingress =>
    cases egress with
    | none =>
      rw [NetworkPolicy.valid_iff ⟨target, some ["Ingress"], ingress, none⟩ [.ingress]
        rfl rfl nofun]
      simp [rules, PolicySpec.rules, PolicySpec.rules?]
    | some egress =>
      rw [NetworkPolicy.valid_iff ⟨target, some ["Ingress", "Egress"], ingress, egress⟩
        [.ingress, .egress] rfl rfl nofun]
      simp [rules, PolicySpec.rules, PolicySpec.rules?, or_imp, forall_and]

/-- With name lookups let through, where egress is drafted. -/
def withDns (port : Nat) (d : Draft) : Draft :=
  { d with egress := d.egress.map fun rules => some (rules.getD [] ++ [.dns port]) }

theorem policy_withDns (port : Nat) (d : Draft) :
    d.policy.withDns port = (d.withDns port).policy := by
  obtain ⟨ns, name, target, ingress, egress⟩ := d
  cases ingress <;> cases egress <;>
    simp [NetworkPolicy.withDns, PolicySpec.withDns, policy, policyTypes, withDns]

theorem forall_rules_withDns_iff {d : Draft} {port : Nat} (h : ∀ rule ∈ d.rules, rule.Valid) :
    (∀ rule ∈ (d.withDns port).rules, rule.Valid) ↔
      (d.egress.isSome = true → 1 ≤ port ∧ port ≤ maxPort) := by
  obtain ⟨ns, name, target, ingress, egress⟩ := d
  cases egress with
  | none => exact iff_of_true h nofun
  | some egress =>
    have hrules : ∀ rule, rule ∈ (withDns port ⟨ns, name, target, ingress, some egress⟩).rules ↔
        rule ∈ rules ⟨ns, name, target, ingress, some egress⟩ ∨ rule = .dns port := by
      intro rule
      simp [withDns, rules, or_assoc]
    simp only [hrules, or_imp, forall_and, forall_eq, Rule.valid_dns_iff, Option.isSome_some,
      forall_const]
    exact and_iff_right h

end Draft

/-- The types as they are written. -/
def NetworkPolicy.types (p : NetworkPolicy) : List String :=
  (p.spec.bind (·.policyTypes)).getD []

theorem Draft.egress_mem_types_iff {d : Draft} :
    Direction.egress.title ∈ d.policy.types ↔ d.egress.isSome = true := by
  obtain ⟨ns, name, target, ingress, egress⟩ := d
  cases ingress <;> cases egress <;>
    simp [NetworkPolicy.types, policy, policyTypes, Direction.title]

/-- Drafted from rules that can be read. -/
def NetworkPolicy.Sound (p : NetworkPolicy) : Prop :=
  ∃ d : Draft, p = d.policy ∧ ∀ rule ∈ d.rules, rule.Valid

namespace CorpusOptions

variable {o : CorpusOptions} {case : TestCase}

/-- Every policy that the case writes. -/
def Sound (case : TestCase) : Prop := ∀ p ∈ case.policies, p.Sound

theorem sound_withRules {d : Draft} (hi : d.ingress = none) (he : d.egress = none)
    {rules : Option (List Rule)} (h : ∀ rule ∈ rules.getD [], rule.Valid) (dir : Direction) :
    (withRules d rules dir).Sound := by
  cases dir with
  | ingress =>
    exact ⟨d.withIngress rules, rfl, by simpa [Draft.rules, Draft.withIngress, he] using h⟩
  | egress =>
    exact ⟨d.withEgress rules, rfl, by simpa [Draft.rules, Draft.withEgress, hi] using h⟩

theorem sound_withPeers {d : Draft} (hi : d.ingress = none) (he : d.egress = none)
    {peers : List PeerRule} (h : ∀ entry ∈ peers, entry.Valid) (dir : Direction) :
    (withRules d (some [.withPeers peers]) dir).Sound := by
  refine sound_withRules hi he ?_ dir
  exact List.forall_mem_singleton.mpr (Rule.valid_withPeers h)

theorem sound_single {description : String} {tags : List String} {p : NetworkPolicy}
    (h : p.Sound) : Sound (single description tags p) := by
  intro q hq
  cases List.mem_singleton.mp hq
  exact h

theorem port_in_range {ports : List Nat} (h : ∀ n ∈ ports, 1 ≤ n ∧ n ≤ maxPort) (i : Nat) :
    1 ≤ pick ports i 80 ∧ pick ports i 80 ≤ maxPort := by
  by_cases hne : ports = []
  · subst hne
    simp [pick, maxPort]
  · exact h _ (pick_mem hne i 80)

theorem valid_of_mem_ruleVariants (hports : ∀ n ∈ o.ports, 1 ≤ n ∧ n ≤ maxPort)
    {variant : String × Option (List Rule)} (h : variant ∈ o.ruleVariants) :
    ∀ rule ∈ variant.2.getD [], rule.Valid := by
  have hport : 1 ≤ o.port ∧ o.port ≤ maxPort := port_in_range hports 0
  simp only [ruleVariants, List.mem_cons, List.not_mem_nil, or_false] at h
  rcases h with rfl | rfl | rfl | rfl
  · exact List.forall_mem_nil _
  · exact List.forall_mem_nil _
  · exact List.forall_mem_singleton.mpr Rule.valid_everything
  · have hentry : (PortRule.numbered o.port (some .tcp)).Valid :=
      PortRule.valid_numbered_iff.mpr hport
    refine List.forall_mem_cons.mpr ⟨Rule.valid_onPorts (List.forall_mem_singleton.mpr hentry),
      List.forall_mem_singleton.mpr (Rule.valid_withPeers ?_)⟩
    exact List.forall_mem_singleton.mpr (PeerRule.valid_pods _ _)

theorem sound_of_mem_shapeCases (hports : ∀ n ∈ o.ports, 1 ≤ n ∧ n ≤ maxPort)
    (h : case ∈ o.shapeCases) : Sound case := by
  rcases List.mem_append.mp h with h | h
  · obtain ⟨variant, hvariant, h⟩ := List.mem_flatMap.mp h
    have hrules := valid_of_mem_ruleVariants hports hvariant
    rcases List.mem_append.mp h with h | h
    · obtain ⟨d, -, rfl⟩ := List.mem_map.mp h
      exact sound_single (sound_withRules rfl rfl hrules d)
    · cases List.mem_singleton.mp h
      refine sound_single ⟨_, rfl, fun rule hrule => ?_⟩
      rcases List.mem_append.mp hrule with hrule | hrule <;> exact hrules rule hrule
  · cases List.mem_singleton.mp h
    exact sound_single ⟨_, rfl, List.forall_mem_nil _⟩

theorem sound_of_mem_targetCases (h : case ∈ o.targetCases) : Sound case := by
  obtain ⟨variant, -, h⟩ := List.mem_flatMap.mp h
  obtain ⟨d, -, rfl⟩ := List.mem_map.mp h
  exact sound_single (sound_withRules rfl rfl (List.forall_mem_nil _) d)

theorem portName_ne (port : Nat) (p : Protocol) : portName port p ≠ "" := by
  simp [portName]

theorem valid_of_mem_portVariants (hports : ∀ n ∈ o.ports, 1 ≤ n ∧ n ≤ maxPort)
    {variant : PortVariant} (h : variant ∈ o.portVariants) :
    ∀ entry ∈ variant.ports.getD [], entry.Valid := by
  have hport : 1 ≤ o.port ∧ o.port ≤ maxPort := port_in_range hports 0
  have hother : 1 ≤ o.otherPort ∧ o.otherPort ≤ maxPort := port_in_range hports 1
  have hnumbered : ∀ p, (PortRule.numbered o.port p).Valid :=
    fun p => PortRule.valid_numbered_iff.mpr hport
  simp only [portVariants, List.mem_append, List.mem_cons, List.not_mem_nil, or_false,
    List.mem_flatMap] at h
  rcases h with ((rfl | rfl | rfl | rfl) | ⟨p, -, h⟩) | h
  · exact List.forall_mem_nil _
  · exact List.forall_mem_nil _
  · exact List.forall_mem_singleton.mpr (hnumbered none)
  · exact List.forall_mem_singleton.mpr
      (PortRule.valid_range (by omega) (by omega) (by omega) .tcp)
  · simp only [protocolVariants, List.mem_cons, List.not_mem_nil, or_false] at h
    rcases h with rfl | rfl | rfl
    · exact List.forall_mem_singleton.mpr (hnumbered (some p))
    · exact List.forall_mem_singleton.mpr (PortRule.valid_named (portName_ne _ _) p)
    · exact List.forall_mem_singleton.mpr (PortRule.valid_everyPort p)
  · split at h
    · simp only [mixedVariants, List.mem_cons, List.not_mem_nil, or_false] at h
      rcases h with rfl | rfl
      · exact List.forall_mem_singleton.mpr (PortRule.valid_named (portName_ne _ _) .udp)
      · exact List.forall_mem_cons.mpr ⟨hnumbered (some .tcp),
          List.forall_mem_singleton.mpr (PortRule.valid_numbered_iff.mpr hother)⟩
    · cases h

theorem sound_of_mem_portCases (hports : ∀ n ∈ o.ports, 1 ≤ n ∧ n ≤ maxPort)
    (h : case ∈ o.portCases) : Sound case := by
  obtain ⟨⟨variant, i⟩, hvariant, h⟩ := List.mem_flatMap.mp h
  obtain ⟨d, -, rfl⟩ := List.mem_map.mp h
  have hentries := valid_of_mem_portVariants hports (List.fst_mem_of_mem_zipIdx hvariant)
  intro p hp
  cases List.mem_singleton.mp hp
  refine sound_withRules rfl rfl (List.forall_mem_singleton.mpr ?_) d
  exact ⟨hentries, nofun⟩

theorem valid_of_mem_peerVariants {variant : List String × Option (List PeerRule)}
    (h : variant ∈ o.peerVariants) : ∀ entry ∈ variant.2.getD [], entry.Valid := by
  have hblock : (PeerRule.block (Network.subnet o.podIp).text []).Valid :=
    PeerRule.valid_block (Network.subnet o.podIp) []
  have hexcept : (PeerRule.block (Network.subnet o.podIp).text
      [(Network.single o.podIp).text]).Valid :=
    PeerRule.valid_block (Network.subnet o.podIp) [Network.single o.podIp]
  have hall : ∀ variant ∈ o.peerVariants, ∀ entry ∈ variant.2.getD [], entry.Valid := by
    simp [peerVariants, PeerRule.valid_pods, hblock, hexcept]
  exact hall variant h

theorem sound_of_mem_peerCases (h : case ∈ o.peerCases) : Sound case := by
  obtain ⟨⟨variant, i⟩, hvariant, h⟩ := List.mem_flatMap.mp h
  obtain ⟨d, -, rfl⟩ := List.mem_map.mp h
  have hentries := valid_of_mem_peerVariants (List.fst_mem_of_mem_zipIdx hvariant)
  refine sound_single (sound_withRules rfl rfl (List.forall_mem_singleton.mpr ?_) d)
  exact ⟨nofun, hentries⟩

theorem sound_draft {d : Draft} (h : ∀ rule ∈ d.rules, rule.Valid) : d.policy.Sound := ⟨d, rfl, h⟩

theorem sound_denyIngress (ns name : String) : (NetworkPolicy.denyIngress ns name).Sound :=
  sound_draft (List.forall_mem_nil _)

theorem sound_denyEgress (ns name : String) : (NetworkPolicy.denyEgress ns name).Sound :=
  sound_draft (List.forall_mem_nil _)

theorem sound_allowIngress (ns name : String) : (NetworkPolicy.allowIngress ns name).Sound :=
  sound_draft (List.forall_mem_singleton.mpr Rule.valid_everything)

theorem sound_of_mem_policyCases (h : case ∈ o.policyCases) : Sound case := by
  simp only [policyCases, List.mem_cons, List.not_mem_nil, or_false] at h
  rcases h with rfl | rfl | rfl | rfl
  · exact List.forall_mem_cons.mpr ⟨sound_denyIngress _ _,
      List.forall_mem_singleton.mpr (sound_allowIngress _ _)⟩
  · refine sound_single (sound_withPeers rfl rfl ?_ .ingress)
    exact List.forall_mem_singleton.mpr (PeerRule.valid_pods _ _)
  · refine sound_single (sound_withPeers rfl rfl ?_ .ingress)
    exact List.forall_mem_cons.mpr ⟨PeerRule.valid_pods _ _,
      List.forall_mem_singleton.mpr (PeerRule.valid_pods _ _)⟩
  · exact List.forall_mem_cons.mpr ⟨sound_denyIngress _ _,
      List.forall_mem_singleton.mpr (sound_denyEgress _ _)⟩

theorem sound_of_mem_actionCases (h : case ∈ o.actionCases) : Sound case := by
  have hpeer : ∀ name ns pods dir,
      (withRules (o.draft name) (some [.withPeers [.pods ns pods]]) dir).Sound :=
    fun name ns pods dir => sound_withPeers rfl rfl
      (List.forall_mem_singleton.mpr (PeerRule.valid_pods ns pods)) dir
  simp only [actionCases, List.mem_cons, List.not_mem_nil, or_false] at h
  rcases h with rfl | rfl | rfl | rfl | rfl | rfl | rfl
  · exact List.forall_mem_singleton.mpr (hpeer "allow-api" _ _ .ingress)
  · exact List.forall_mem_singleton.mpr (hpeer "allow-alice" _ _ .ingress)
  · exact List.forall_mem_cons.mpr ⟨sound_denyIngress _ _,
      List.forall_mem_singleton.mpr (sound_allowIngress _ _)⟩
  · exact List.forall_mem_singleton.mpr (sound_denyIngress _ _)
  · exact List.forall_mem_singleton.mpr (sound_denyEgress _ _)
  · exact List.forall_mem_singleton.mpr (sound_denyIngress _ _)
  · exact List.forall_mem_singleton.mpr (hpeer "egress-to-y" _ _ .egress)

theorem sound_of_mem_plainCases (hports : ∀ n ∈ o.ports, 1 ≤ n ∧ n ≤ maxPort)
    (h : case ∈ o.plainCases) : Sound case := by
  simp only [plainCases, List.mem_append] at h
  rcases h with (((((h | h) | h) | h) | h) | h) | h
  · cases List.mem_singleton.mp h
    exact List.forall_mem_nil _
  · exact sound_of_mem_shapeCases hports h
  · exact sound_of_mem_targetCases h
  · exact sound_of_mem_portCases hports h
  · exact sound_of_mem_peerCases h
  · exact sound_of_mem_policyCases h
  · exact sound_of_mem_actionCases h

/-- Written for the corpus, a policy compiles unless it restricts egress and the port of name
lookups is none. -/
theorem valid_adapt_iff {p : NetworkPolicy} (h : p.Sound) :
    (o.adapt p).withDefaultTypes.Valid ↔
      (o.allowDns = true → Direction.egress.title ∈ (o.adapt p).types →
        1 ≤ o.dnsPort ∧ o.dnsPort ≤ maxPort) := by
  obtain ⟨d, rfl, hrules⟩ := h
  rw [adapt]
  cases o.allowDns with
  | false => simpa using d.valid_policy_iff.mpr hrules
  | true =>
    rw [if_pos rfl, Draft.policy_withDns, Draft.valid_policy_iff,
      Draft.forall_rules_withDns_iff hrules, Draft.egress_mem_types_iff]
    simp [Draft.withDns]

theorem exists_sound_of_mem_policies (hports : ∀ n ∈ o.ports, 1 ≤ n ∧ n ≤ maxPort)
    (h : case ∈ o.cases) {p : NetworkPolicy} (hp : p ∈ case.policies) :
    ∃ q : NetworkPolicy, q.Sound ∧ p = o.adapt q := by
  obtain ⟨plain, hplain, hactions⟩ := o.exists_plain_of_mem_cases h
  rw [case.policies_eq, hactions, List.filterMap_map] at hp
  obtain ⟨a, ha, hp⟩ := List.mem_filterMap.mp hp
  rw [Function.comp_apply, Action.policy?_mapPolicy, Option.map_eq_some_iff] at hp
  obtain ⟨q, hq, rfl⟩ := hp
  refine ⟨q, sound_of_mem_plainCases hports hplain q ?_, rfl⟩
  rw [plain.policies_eq]
  exact List.mem_filterMap.mpr ⟨a, ha, hq⟩

end CorpusOptions

namespace Config

open CommandLine (corpusOptions corpusCases)

variable {c : Config} {podIp : Address} {case : TestCase}

/-- Policies of a case that is generated from a configuration, whether valid or not, compile one by
one and together, unless name lookups are let through on a port that is none. -/
theorem exists_build_corpus_iff (hcase : case ∈ corpusCases c podIp) {ps : List NetworkPolicy}
    (hps : ∀ p ∈ ps, p ∈ case.policies) (simplified : Bool) :
    (∃ policy, Policy.build simplified (ps.map (·.withDefaultTypes)) = .ok policy) ↔
      (c.corpus.allowDns = true → (∃ p ∈ ps, Direction.egress.title ∈ p.types) →
        1 ≤ c.corpus.dnsPort ∧ c.corpus.dnsPort ≤ maxPort) := by
  have hports : ∀ n ∈ (corpusOptions c podIp).ports, 1 ≤ n ∧ n ≤ maxPort := by
    intro n hn
    simpa using (List.mem_filter.mp hn).2
  have heach : ∀ p ∈ ps, p.withDefaultTypes.Valid ↔ (c.corpus.allowDns = true →
      Direction.egress.title ∈ p.types → 1 ≤ c.corpus.dnsPort ∧ c.corpus.dnsPort ≤ maxPort) := by
    intro p hp
    obtain ⟨q, hq, rfl⟩ :=
      CorpusOptions.exists_sound_of_mem_policies hports (List.mem_of_mem_filter hcase) (hps p hp)
    exact CorpusOptions.valid_adapt_iff hq
  rw [Policy.exists_build_iff, List.forall_mem_map]
  constructor
  · intro h hdns hegress
    obtain ⟨p, hp, hegress⟩ := hegress
    exact (heach p hp).mp (h p hp) hdns hegress
  · intro h p hp
    exact (heach p hp).mpr fun hdns hegress => h hdns ⟨p, hp, hegress⟩

theorem exists_build_default_corpus :
    ∃ case ∈ corpusCases {} ({} : CorpusOptions).podIp,
      (∃ p ∈ case.policies, Direction.egress.title ∈ p.types) ∧
      ∃ policy, Policy.build true (case.policies.map (·.withDefaultTypes)) = .ok policy := by
  obtain ⟨case, hcase, hegress⟩ := List.any_eq_true.mp
    (show ((corpusCases {} ({} : CorpusOptions).podIp).any fun case =>
      case.policies.any fun p => p.types.contains Direction.egress.title) = true by decide +kernel)
  obtain ⟨p, hp, hegress⟩ := List.any_eq_true.mp hegress
  exact ⟨case, hcase, ⟨p, hp, List.contains_iff_mem.mp hegress⟩,
    (exists_build_corpus_iff hcase (fun _ hp => hp) true).mpr fun _ _ => by decide⟩

/-- A valid configuration may let name lookups through on port zero. -/
theorem not_build_corpus_of_zero :
    let c : Config := { corpus := { dnsPort := 0 } }
    c.validate = .ok () ∧ ∃ case ∈ corpusCases c ({} : CorpusOptions).podIp,
      ∃ p ∈ case.policies,
        Policy.build false [p.withDefaultTypes] = .error (.port (.number 0)) := by
  intro c
  obtain ⟨case, hcase, h⟩ := List.any_eq_true.mp
    (show ((corpusCases c ({} : CorpusOptions).podIp).any fun case => case.policies.any fun p =>
      discard (Policy.build false [p.withDefaultTypes]) = .error (.port (.number 0))) = true by
        decide +kernel)
  obtain ⟨p, hp, h⟩ := List.any_eq_true.mp h
  exact ⟨rfl, case, hcase, p, hp, Fallible.map_eq_error_iff.mp (of_decide_eq_true h)⟩

end Config
end PodTraffic
