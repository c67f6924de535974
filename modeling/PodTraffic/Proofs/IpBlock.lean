import PodTraffic.Proofs.Address.RoundTrip
import PodTraffic.Proofs.Policy.Valid
import PodTraffic.Proofs.Text.Cut

/-!
# Networks and blocks of addresses

A network holds the addresses of its family that agree with it on its leading bits, and is one
value for all addresses that agree on them. So what is read of a block is told by the networks that
its texts denote, and its text tells it apart from every other block.
-/
namespace PodTraffic

/-- One family, and the same leading bits, `n` of them. -/
def Address.Agree (n : Nat) (a b : Address) : Prop :=
  a.family = b.family ∧ ∀ i < n,
    a.bits.testBit (a.family.width - 1 - i) = b.bits.testBit (b.family.width - 1 - i)

namespace Address.Agree

variable {n : Nat} {a b c : Address}

theorem symm (h : a.Agree n b) : b.Agree n a := ⟨h.1.symm, fun i hi => (h.2 i hi).symm⟩

theorem trans (h : a.Agree n b) (h' : b.Agree n c) : a.Agree n c :=
  ⟨h.1.trans h'.1, fun i hi => (h.2 i hi).trans (h'.2 i hi)⟩

end Address.Agree

theorem div_two_pow_eq_iff {x y width n : Nat} (hx : x < 2 ^ width) (hy : y < 2 ^ width)
    (hn : n ≤ width) : x / 2 ^ (width - n) = y / 2 ^ (width - n) ↔
      ∀ i < n, x.testBit (width - 1 - i) = y.testBit (width - 1 - i) := by
  constructor
  · intro h i hi
    have hbit := congrArg (Nat.testBit · (n - 1 - i)) h
    simp only [Nat.testBit_div_two_pow] at hbit
    rwa [show n - 1 - i + (width - n) = width - 1 - i by omega] at hbit
  · intro h
    refine Nat.eq_of_testBit_eq fun j => ?_
    rw [Nat.testBit_div_two_pow, Nat.testBit_div_two_pow]
    by_cases hj : j < n
    · have hbit := h (n - 1 - j) (by omega)
      rwa [show width - 1 - (n - 1 - j) = j + (width - n) by omega] at hbit
    · have hle : 2 ^ width ≤ 2 ^ (j + (width - n)) := Nat.pow_le_pow_right (by decide) (by omega)
      rw [Nat.testBit_lt_two_pow (hx.trans_le hle), Nat.testBit_lt_two_pow (hy.trans_le hle)]

namespace Network

theorem leading_eq_iff {a b : Address} {n : Nat} (hn : n ≤ a.family.width)
    (hfamily : a.family = b.family) : leading n a = leading n b ↔ a.Agree n b := by
  obtain ⟨family, x, hx⟩ := a
  obtain ⟨family', y, hy⟩ := b
  obtain rfl : family = family' := hfamily
  simp only [leading, Nat.pow_eq, Address.Agree, true_and]
  simp only [Nat.pow_eq] at hx hy
  exact div_two_pow_eq_iff hx hy hn

theorem contains_iff_agree (n : Network) (a : Address) :
    n.contains a = true ↔ a.Agree n.length n.base := by
  rw [contains, Bool.and_eq_true, beq_iff_eq, beq_iff_eq]
  constructor
  · intro h
    obtain ⟨hfamily, hleading⟩ := h
    exact (leading_eq_iff (hfamily ▸ n.length_le) hfamily).mp hleading
  · intro h
    have hfamily : a.family = n.family := h.1
    exact ⟨hfamily, (leading_eq_iff (hfamily ▸ n.length_le) h.1).mpr h⟩

theorem leading_base_ofAddress (a : Address) {length : Nat} (h : length ≤ a.family.width) :
    leading length (ofAddress a length h).base = leading length a :=
  Nat.mul_div_cancel _ (Nat.two_pow_pos _)

theorem agree_base_ofAddress (a : Address) {length : Nat} (h : length ≤ a.family.width) :
    a.Agree length (ofAddress a length h).base := by
  have hbase := leading_base_ofAddress a h
  exact (leading_eq_iff h (by rfl)).mp hbase.symm

theorem contains_ofAddress_iff {a ip : Address} {length : Nat} (h : length ≤ a.family.width) :
    (ofAddress a length h).contains ip = true ↔ ip.Agree length a := by
  rw [contains_iff_agree]
  have hbase := agree_base_ofAddress a h
  exact ⟨fun hip => hip.trans hbase.symm, fun hip => hip.trans hbase⟩

/-- Addresses that agree on the leading bits are in one network. -/
theorem ofAddress_eq_iff {a b : Address} {length length' : Nat} (h : length ≤ a.family.width)
    (h' : length' ≤ b.family.width) :
    ofAddress a length h = ofAddress b length' h' ↔ length = length' ∧ a.Agree length b := by
  constructor
  · intro heq
    obtain rfl : length = length' := congrArg Network.length heq
    have hbase := agree_base_ofAddress a h
    rw [heq] at hbase
    exact ⟨rfl, hbase.trans (agree_base_ofAddress b h').symm⟩
  · intro heq
    obtain ⟨rfl, hagree⟩ := heq
    have hfamily := hagree.1
    have hleading := (leading_eq_iff h hfamily).mpr hagree
    simp only [ofAddress, hfamily, hleading]

/-- An address and a length, the host bits of the address as they are. -/
structure Written where
  address : Address
  length : Nat
  length_le : length ≤ address.family.width

/-- The network with the host bits cleared. -/
def Written.network (w : Written) : Network := ofAddress w.address w.length w.length_le

theorem Written.contains_network_iff (w : Written) (ip : Address) :
    w.network.contains ip = true ↔ ip.Agree w.length w.address := contains_ofAddress_iff w.length_le

theorem Written.network_eq_iff (w w' : Written) :
    w.network = w'.network ↔ w.length = w'.length ∧ w.address.Agree w.length w'.address :=
  ofAddress_eq_iff w.length_le w'.length_le

/-- The length is written after a slash. -/
def ofWritten? (digits limit : Nat) (a : Address) (cs : List Char) : Option Written := do
  let found ← Address.readNumber 10 digits limit true (← Address.readChar '/' cs)
  if h : found.2.isEmpty ∧ found.1 ≤ a.family.width then some ⟨a, found.1, h.2⟩ else none

def written? (text : String) : Option Written :=
  (Address.readV4 true text.toList >>= fun (a, rest) => ofWritten? 2 32 a rest) <|>
    (Address.readV6 true 0 text.toList >>= fun (a, rest) => ofWritten? 3 128 a rest)

theorem ofRead_eq (digits limit : Nat) (a : Address) (cs : List Char) :
    ofRead digits limit a cs = (ofWritten? digits limit a cs).map Written.network := by
  unfold ofRead ofWritten?
  simp only [Option.bind_eq_bind, Option.map_bind, Function.comp_def]
  refine congrArg _ (funext fun cs' => congrArg _ (funext fun found => ?_))
  split <;> rfl

theorem parse?_eq (text : String) : parse? text = (written? text).map Written.network := by
  have hor : ∀ x y : Option Written,
      (x <|> y).map Written.network = (x.map Written.network <|> y.map Written.network) := by
    rintro (_ | _) y <;> rfl
  unfold parse? written?
  simp only [Option.bind_eq_bind, hor, Option.map_bind, Function.comp_def, ofRead_eq]

/-- The text without the blanks around it. -/
def Denotes (text : String) (w : Written) : Prop := written? (Text.trim text) = some w

theorem readNetwork_eq_ok_iff {text : String} {n : Network} :
    readNetwork text = .ok n ↔ ∃ w, Denotes text w ∧ w.network = n := by
  unfold readNetwork Denotes
  rw [parse?_eq]
  cases written? (Text.trim text) <;> simp

/-- Texts of one network: the same length, and addresses that agree on as many bits. -/
def SameNetwork (text text' : String) : Prop :=
  ∃ w w', Denotes text w ∧ Denotes text' w' ∧ w.length = w'.length ∧
    w.address.Agree w.length w'.address

theorem sameNetwork_iff {text text' : String} :
    SameNetwork text text' ↔ ∃ n, readNetwork text = .ok n ∧ readNetwork text' = .ok n := by
  simp only [readNetwork_eq_ok_iff]
  constructor
  · intro h
    obtain ⟨w, w', hw, hw', hsame⟩ := h
    exact ⟨w.network, ⟨w, hw, rfl⟩, w', hw', ((w.network_eq_iff w').mpr hsame).symm⟩
  · intro h
    obtain ⟨n, ⟨w, hw, rfl⟩, w', hw', hn⟩ := h
    exact ⟨w, w', hw, hw', (w.network_eq_iff w').mp hn.symm⟩

theorem SameNetwork.symm {text text' : String} (h : SameNetwork text text') :
    SameNetwork text' text := by
  rw [sameNetwork_iff] at h ⊢
  exact h.imp fun _ hn => hn.symm

theorem exists_read_of_sameNetwork {texts texts' : List String} {n : Network}
    (h : ∀ text ∈ texts, ∃ text' ∈ texts', SameNetwork text text')
    (hn : ∃ text ∈ texts, readNetwork text = .ok n) :
    ∃ text' ∈ texts', readNetwork text' = .ok n := by
  obtain ⟨text, htext, hread⟩ := hn
  obtain ⟨text', htext', hsame⟩ := h text htext
  obtain ⟨n', hn, hn'⟩ := sameNetwork_iff.mp hsame
  rw [hread, Except.ok.injEq] at hn
  exact ⟨text', htext', hn ▸ hn'⟩

theorem text_injective {n n' : Network} (h : n.text = n'.text) : n = n' := by
  have hread := n.readNetwork_text
  rw [h, n'.readNetwork_text] at hread
  exact (Except.ok.inj hread).symm

/-- Neither commas nor blanks nor brackets. -/
theorem text_free (n : Network) : ∀ c ∈ [',', ' ', '[', ']'], c ∉ n.text.toList := by
  have hmarks : [',', ' ', '[', ']'].all (fun c => !Address.isAddressChar c && c != '/' &&
      !(Text.digitValue? 10 c).isSome) = true := by decide
  intro c hc hmem
  have hmark := List.all_eq_true.mp hmarks c hc
  simp only [Bool.and_eq_true, Bool.not_eq_true', bne_iff_ne, and_assoc] at hmark
  rw [toList_text, List.mem_append, List.mem_cons] at hmem
  rcases hmem with hmem | hmem | hmem
  · rw [Address.isAddressChar_of_parse? (Address.parse?_text n.base) c hmem] at hmark
    cases hmark.1
  · exact hmark.2.1 hmem
  · rw [Text.isSome_digitValue?_of_mem_toDigits (by decide) (by decide) _ c hmem] at hmark
    cases hmark.2.2

end Network

namespace IpBlock

variable {network : String} {except : List String} {b b' : IpBlock}

theorem read_eq_ok_iff : read network except = .ok b ↔
    readNetwork network = .ok b.network ∧
      ∃ ns, except.mapM readNetwork = .ok ns ∧ b.except = Ordered.distinct ns := by
  constructor
  · intro h
    obtain ⟨n, hn, h⟩ := Fallible.bind_eq_ok_iff.mp h
    obtain ⟨ns, hns, h⟩ := Fallible.bind_eq_ok_iff.mp h
    obtain rfl := Fallible.pure_eq_ok_iff.mp h
    exact ⟨hn, ns, hns, rfl⟩
  · intro h
    obtain ⟨hn, ns, hns, hb⟩ := h
    refine Fallible.bind_eq_ok_iff.mpr ⟨_, hn, Fallible.bind_eq_ok_iff.mpr ⟨ns, hns, ?_⟩⟩
    rw [← hb]
    rfl

/-- The excepted networks are those of the texts. -/
theorem mem_except_iff (h : read network except = .ok b) (n : Network) :
    n ∈ b.except ↔ ∃ text ∈ except, readNetwork text = .ok n := by
  obtain ⟨-, ns, hns, hb⟩ := read_eq_ok_iff.mp h
  rw [hb, Ordered.mem_distinct, Fallible.mem_iff_of_mapM hns]

theorem contains_iff_agree (h : read network except = .ok b) (ip : Address) :
    b.contains ip = true ↔
      (∃ w, Network.Denotes network w ∧ ip.Agree w.length w.address) ∧
        ∀ text ∈ except, ∀ w, Network.Denotes text w → ¬ ip.Agree w.length w.address := by
  have hrule : read (BlockRule.mk network (some except)).cidr
      ((BlockRule.mk network (some except)).except.getD []) = .ok b := h
  rw [contains_read hrule, BlockRule.Admits]
  simp only [Option.getD_some, Network.readNetwork_eq_ok_iff,
    ← Network.Written.contains_network_iff, Bool.not_eq_true]
  refine and_congr ?_ (forall₂_congr fun text _ => ?_)
  · constructor
    · rintro ⟨_, ⟨w, hw, rfl⟩, hip⟩
      exact ⟨w, hw, hip⟩
    · rintro ⟨w, hw, hip⟩
      exact ⟨_, ⟨w, hw, rfl⟩, hip⟩
  · constructor
    · exact fun h w hw => h _ ⟨w, hw, rfl⟩
    · rintro h _ ⟨w, hw, rfl⟩
      exact h w hw

theorem sameNetwork_of_read {network' : String} {except' : List String}
    (h : read network except = .ok b) (h' : read network' except' = .ok b) :
    Network.SameNetwork network network' ∧
      ∀ text ∈ except, ∃ text' ∈ except', Network.SameNetwork text text' := by
  simp only [Network.sameNetwork_iff]
  refine ⟨⟨_, (read_eq_ok_iff.mp h).1, (read_eq_ok_iff.mp h').1⟩, fun text htext => ?_⟩
  obtain ⟨n, hn⟩ := (exists_read_iff.mp ⟨b, h⟩).2 text htext
  have hmem : n ∈ b.except := (mem_except_iff h n).mpr ⟨text, htext, hn⟩
  obtain ⟨text', htext', hn'⟩ := (mem_except_iff h' n).mp hmem
  exact ⟨text', htext', n, hn, hn'⟩

theorem read_of_sameNetwork {network' : String} {except' : List String}
    (h : read network except = .ok b) (hsame : Network.SameNetwork network network')
    (hto : ∀ text ∈ except, ∃ text' ∈ except', Network.SameNetwork text text')
    (hfrom : ∀ text' ∈ except', ∃ text ∈ except, Network.SameNetwork text text') :
    read network' except' = .ok b := by
  obtain ⟨hnetwork, ns, hns, hexcept⟩ := read_eq_ok_iff.mp h
  obtain ⟨n, hn, hn'⟩ := Network.sameNetwork_iff.mp hsame
  obtain ⟨ns', hns'⟩ := Fallible.exists_mapM_eq_ok_iff.mpr fun text' htext' => by
    obtain ⟨text, -, hsame⟩ := hfrom text' htext'
    obtain ⟨n, -, hn⟩ := Network.sameNetwork_iff.mp hsame
    exact ⟨n, hn⟩
  rw [hn, Except.ok.injEq] at hnetwork
  refine read_eq_ok_iff.mpr ⟨hnetwork ▸ hn', ns', hns', ?_⟩
  rw [hexcept]
  refine Ordered.distinct_congr fun n => ?_
  rw [Fallible.mem_iff_of_mapM hns, Fallible.mem_iff_of_mapM hns']
  have hback : ∀ text' ∈ except', ∃ text ∈ except, Network.SameNetwork text' text := by
    intro text' htext'
    obtain ⟨text, htext, hsame⟩ := hfrom text' htext'
    exact ⟨text, htext, hsame.symm⟩
  exact ⟨Network.exists_read_of_sameNetwork hto, Network.exists_read_of_sameNetwork hback⟩

/-- The block is told by the networks of its texts, whatever their host bits, their order and
their repetition. -/
theorem read_eq_ok_iff_sameNetwork {network' : String} {except' : List String}
    (h : read network except = .ok b) : read network' except' = .ok b ↔
      Network.SameNetwork network network' ∧
        (∀ text ∈ except, ∃ text' ∈ except', Network.SameNetwork text text') ∧
        ∀ text' ∈ except', ∃ text ∈ except, Network.SameNetwork text text' := by
  constructor
  · intro h'
    obtain ⟨hnetwork, hto⟩ := sameNetwork_of_read h h'
    refine ⟨hnetwork, hto, fun text' htext' => ?_⟩
    obtain ⟨text, htext, hsame⟩ := (sameNetwork_of_read h' h).2 text' htext'
    exact ⟨text, htext, hsame.symm⟩
  · intro hsame
    exact read_of_sameNetwork h hsame.1 hsame.2.1 hsame.2.2

theorem toList_text (b : IpBlock) : b.text.toList = b.network.text.toList ++
    if b.except.isEmpty then []
    else ' ' :: ("except [".toList ++
      ([',', ' '].intercalate (b.except.map (·.text.toList)) ++ [']'])) := by
  unfold text
  split
  · simp
  · simp [String.toList_intercalate, Function.comp_def]

theorem text_injective (h : b.text = b'.text) : b = b' := by
  have hfree : ∀ n : Network, ' ' ∉ n.text.toList := fun n => n.text_free ' ' (by simp)
  have hcomma : ∀ ns : List Network, ∀ piece ∈ ns.map (·.text.toList), ',' ∉ piece := fun ns =>
    List.forall_mem_map.mpr fun n _ => n.text_free ',' (by simp)
  have hchars := congrArg String.toList h
  rw [toList_text, toList_text] at hchars
  obtain ⟨network, except⟩ := b
  obtain ⟨network', except'⟩ := b'
  cases except with
  | nil =>
    cases except' with
    | nil =>
      simp only [List.isEmpty_nil, if_true, List.append_nil, String.toList_inj] at hchars
      rw [Network.text_injective hchars]
    | cons n' ns' =>
      simp only [List.isEmpty_nil, if_true, List.append_nil, List.isEmpty_cons] at hchars
      exact absurd (by simp [hchars]) (hfree network)
  | cons n ns =>
    cases except' with
    | nil =>
      simp only [List.isEmpty_nil, if_true, List.append_nil, List.isEmpty_cons] at hchars
      exact absurd (by simp [← hchars]) (hfree network')
    | cons n' ns' =>
      simp only [List.isEmpty_cons, Bool.false_eq_true, if_false] at hchars
      obtain ⟨hnetwork, hrest⟩ := Text.eq_of_append_mark (hfree _) (hfree _) hchars
      have hjoin := List.append_cancel_right (List.append_cancel_left hrest)
      have hpieces := Text.eq_of_intercalate_cons_eq (hcomma _) (hcomma _) (by simp) (by simp) hjoin
      have hexcept : n :: ns = n' :: ns' := Text.eq_of_map_eq_map
        (fun _ _ _ _ heq => Network.text_injective (String.toList_injective heq)) hpieces
      rw [Network.text_injective (String.toList_injective hnetwork), hexcept]

/-- A block that is read holds an address exactly if this agrees with the network on its leading
bits and with no excepted one; other texts give the same block exactly if they denote the same
networks; and a block of the same text holds the same addresses. -/
theorem read_exact (h : read network except = .ok b) :
    (∀ ip, b.contains ip = true ↔
      (∃ w, Network.Denotes network w ∧ ip.Agree w.length w.address) ∧
        ∀ text ∈ except, ∀ w, Network.Denotes text w → ¬ ip.Agree w.length w.address) ∧
    (∀ network' except', read network' except' = .ok b ↔
      Network.SameNetwork network network' ∧
        (∀ text ∈ except, ∃ text' ∈ except', Network.SameNetwork text text') ∧
        ∀ text' ∈ except', ∃ text ∈ except, Network.SameNetwork text text') ∧
    ∀ b' : IpBlock, b.text = b'.text → ∀ ip, b.contains ip = b'.contains ip :=
  ⟨contains_iff_agree h, fun _ _ => read_eq_ok_iff_sameNetwork h,
    fun _ htext _ => by rw [text_injective htext]⟩

/-- One block from texts with other host bits, in another order, one of them twice. -/
theorem read_exact_of_host_bits :
    let b : IpBlock := ⟨.ofAddress (.ofNat .v4 0x0A000000) 24 (by decide),
      [.ofAddress (.ofNat .v4 0x0A000010) 28 (by decide),
        .ofAddress (.ofNat .v4 0x0A0000C8) 30 (by decide)]⟩
    let outside : Address := .ofNat .v4 0x0A0000CC
    read "10.0.0.77/24" ["10.0.0.203/30", "10.0.0.16/28"] = .ok b ∧
      read "10.0.0.0/24" ["10.0.0.16/28", " 10.0.0.201/30", "10.0.0.31/28"] = .ok b ∧
      Network.SameNetwork "10.0.0.77/24" "10.0.0.0/24" ∧
      (∃ w, Network.Denotes "10.0.0.77/24" w ∧ outside.Agree w.length w.address) ∧
      ∀ w, Network.Denotes "10.0.0.203/30" w → ¬ outside.Agree w.length w.address := by
  intro b outside
  have hread : read "10.0.0.77/24" ["10.0.0.203/30", "10.0.0.16/28"] = .ok b := by decide
  have hread' : read "10.0.0.0/24" ["10.0.0.16/28", " 10.0.0.201/30", "10.0.0.31/28"] = .ok b := by
    decide
  obtain ⟨hcontains, hsame, -⟩ := read_exact hread
  obtain ⟨hnetwork, hexcept⟩ := (hcontains outside).mp (by decide)
  exact ⟨hread, hread', ((hsame _ _).mp hread').1, hnetwork, hexcept _ (by simp)⟩

end IpBlock
end PodTraffic
