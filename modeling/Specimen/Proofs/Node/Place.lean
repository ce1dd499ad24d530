import Specimen.Node.Reset
import Specimen.Proofs.Place

/-!
# Nodes by their places

A node and those embedded in it form a tree, and places say where a node stands in it. The keys of
the tree are listed by `Node.keys`; that no key is listed twice says that nodes at different places
have different keys (`Node.keys_nodup_iff`).
-/

namespace Specimen

/-- The id that the rule of a node names. -/
def NodeKind.ruleId? : NodeKind → Option String
  | .optional _ (.whenPresent id) => some id
  | _ => none

/-- The node at a place inside another one. -/
def Node.at? : Node → Place → Option Node
  | n, [] => some n
  | n, i :: p =>
    match n.kind.links[i]? with
    | some (.embedded m) => m.at? p
    | _ => none

@[simp] theorem Node.at?_nil (n : Node) : n.at? [] = some n := by
  rw [Node.at?]

theorem Node.at?_cons {n m : Node} {i : Nat} {p : Place} : n.at? (i :: p) = some m ↔
    ∃ k, n.kind.links[i]? = some (.embedded k) ∧ k.at? p = some m := by
  rw [Node.at?]
  split
  · next k h => simp [h]
  · next h =>
    simp only [reduceCtorEq, false_iff, not_exists, not_and]
    exact fun k h_k => absurd h_k (h k)

theorem Node.at?_append {n m k : Node} {p q : Place} (h : n.at? p = some m) :
    n.at? (p ++ q) = some k ↔ m.at? q = some k := by
  induction p generalizing n with
  | nil => rw [Node.at?_nil] at h; rw [Option.some.inj h, List.nil_append]
  | cons i p ih =>
    obtain ⟨w, h_w, h_m⟩ := Node.at?_cons.1 h
    rw [List.cons_append, Node.at?_cons]
    constructor
    · rintro ⟨w', h_w', h_k⟩
      obtain rfl : w = w' := by simpa [h_w] using h_w'
      exact (ih h_m).1 h_k
    · exact fun h_k => ⟨w, h_w, (ih h_m).2 h_k⟩

/-- A node is another one or embedded in it, at any depth. -/
def Node.Inside (n m : Node) : Prop := ∃ p, n.at? p = some m

/-- A node is inside the one that a link embeds. -/
def Link.Inside : Link → Node → Prop
  | .reference _, _ => False
  | .embedded n, m => n.Inside m

theorem Node.inside_self (n : Node) : n.Inside n := ⟨[], n.at?_nil⟩

/-- What is inside a node is inside whatever this node is inside of. -/
theorem Node.Inside.trans {n m k : Node} (h : n.Inside m) (h' : m.Inside k) : n.Inside k := by
  obtain ⟨p, h_p⟩ := h
  obtain ⟨q, h_q⟩ := h'
  exact ⟨p ++ q, (Node.at?_append h_p).2 h_q⟩

theorem Node.inside_iff {n m : Node} : n.Inside m ↔ m = n ∨ ∃ l ∈ n.kind.links, l.Inside m := by
  constructor
  · rintro ⟨_ | ⟨i, p⟩, h⟩
    · rw [Node.at?_nil] at h
      exact .inl (Option.some.inj h).symm
    · obtain ⟨k, h_k, h_m⟩ := Node.at?_cons.1 h
      exact .inr ⟨_, List.mem_of_getElem? h_k, p, h_m⟩
  · rintro (rfl | ⟨_ | k, h_l, h⟩)
    · exact Node.inside_self _
    · exact h.elim
    · obtain ⟨i, h_i⟩ := List.getElem?_of_mem h_l
      obtain ⟨p, h_p⟩ := h
      exact ⟨i :: p, Node.at?_cons.2 ⟨k, h_i, h_p⟩⟩

/-- A node inside another one that is not that one itself is embedded in a node inside it. -/
theorem Node.Inside.above {n m : Node} (h : n.Inside m) :
    m = n ∨ ∃ k, n.Inside k ∧ .embedded m ∈ k.kind.links := by
  obtain ⟨p, h_p⟩ := h
  induction p generalizing n with
  | nil =>
    rw [Node.at?_nil] at h_p
    exact .inl (Option.some.inj h_p).symm
  | cons i p ih =>
    obtain ⟨k, h_k, h_m⟩ := Node.at?_cons.1 h_p
    rcases ih h_m with rfl | ⟨w, ⟨q, h_q⟩, h_link⟩
    · exact .inr ⟨n, n.inside_self, List.mem_of_getElem? h_k⟩
    · exact .inr ⟨w, ⟨i :: q, Node.at?_cons.2 ⟨k, h_k, h_q⟩⟩, h_link⟩

mutual

/-- What holds of a node whenever it holds of its embedded parts holds of all nodes. -/
theorem Node.partInduction {P : Node → Prop}
    (h : ∀ n, (∀ m, .embedded m ∈ n.kind.links → P m) → P n) : ∀ n, P n
  | .mk _ _ kind => h _ (NodeKind.partInduction h kind)

theorem NodeKind.partInduction {P : Node → Prop}
    (h : ∀ n, (∀ m, .embedded m ∈ n.kind.links → P m) → P n) :
    ∀ k : NodeKind, ∀ m, .embedded m ∈ k.links → P m
  | .constant _, _, h_m | .field .., _, h_m => absurd h_m List.not_mem_nil
  | .combined parts _, m, h_m => Link.listPartInduction h parts m h_m
  | .optional child _, m, h_m | .source child, m, h_m =>
    Link.partInduction h child m (List.mem_singleton.1 h_m)

theorem Link.partInduction {P : Node → Prop}
    (h : ∀ n, (∀ m, .embedded m ∈ n.kind.links → P m) → P n) :
    ∀ l : Link, ∀ m, .embedded m = l → P m
  | .embedded n, _, h_m => Link.embedded.inj h_m ▸ Node.partInduction h n

theorem Link.listPartInduction {P : Node → Prop}
    (h : ∀ n, (∀ m, .embedded m ∈ n.kind.links → P m) → P n) :
    ∀ ls : List Link, ∀ m, .embedded m ∈ ls → P m
  | l :: ls, m, h_m =>
    (List.mem_cons.1 h_m).elim (Link.partInduction h l m) (Link.listPartInduction h ls m)

end

/-! ### Keys -/

theorem Link.listKeys_eq_flatMap : ∀ ls : List Link, Link.listKeys ls = ls.flatMap Link.keys
  | [] => by rw [Link.listKeys, List.flatMap_nil]
  | l :: ls => by rw [Link.listKeys, Link.listKeys_eq_flatMap ls, List.flatMap_cons]

theorem NodeKind.keys_eq (k : NodeKind) : k.keys = k.links.flatMap Link.keys := by
  cases k <;> simp [NodeKind.keys, NodeKind.links, Link.listKeys_eq_flatMap]

theorem Node.keys_eq (n : Node) : n.keys = [n.key] ++ n.kind.links.flatMap Link.keys := by
  obtain ⟨key, i, kind⟩ := n
  rw [Node.keys, NodeKind.keys_eq]
  rfl

/-- A key is that of the node at a place. -/
def Node.Holds (n : Node) (p : Place) (key : Nat) : Prop := ∃ m, n.at? p = some m ∧ m.key = key

/-- A key is that of the node at a place of the node that a link embeds. -/
def Link.Holds : Link → Place → Nat → Prop
  | .reference _, _, _ => False
  | .embedded n, p, key => n.Holds p key

theorem Node.holds_nil {n : Node} {key : Nat} : n.Holds [] key ↔ key ∈ [n.key] := by
  rw [Node.Holds, Node.at?_nil, List.mem_singleton]
  exact ⟨fun ⟨_, h_m, h_key⟩ => Option.some.inj h_m ▸ h_key.symm, fun h => ⟨n, rfl, h.symm⟩⟩

theorem Node.holds_cons {n : Node} {i : Nat} {p : Place} {key : Nat} :
    n.Holds (i :: p) key ↔ ∃ l, n.kind.links[i]? = some l ∧ l.Holds p key := by
  constructor
  · rintro ⟨m, h_m, h_key⟩
    obtain ⟨k, h_k, h_m⟩ := Node.at?_cons.1 h_m
    exact ⟨.embedded k, h_k, m, h_m, h_key⟩
  · rintro ⟨_ | k, h_l, h⟩
    · exact h.elim
    · obtain ⟨m, h_m, h_key⟩ := h
      exact ⟨m, Node.at?_cons.2 ⟨k, h_l, h_m⟩, h_key⟩

theorem Link.mem_keys_of_parts {l : Link}
    (h : ∀ n, l = .embedded n → ∀ key, key ∈ n.keys ↔ ∃ p, n.Holds p key) (key : Nat) :
    key ∈ l.keys ↔ ∃ p, l.Holds p key := by
  cases l with
  | reference _ => simp [Link.keys, Link.Holds]
  | embedded n => rw [Link.keys]; exact h n rfl key

theorem Node.mem_keys_iff (n : Node) (key : Nat) : key ∈ n.keys ↔ ∃ p, n.Holds p key := by
  induction n using Node.partInduction generalizing key with
  | h n ih =>
    rw [Node.keys_eq]
    exact mem_labels_step (fun _ => Node.holds_nil) (fun _ _ _ => Node.holds_cons)
      (fun l h_l => Link.mem_keys_of_parts fun m h_m => ih m (h_m ▸ h_l)) key

theorem Node.mem_keys_of_inside {n m : Node} (h : n.Inside m) : m.key ∈ n.keys := by
  obtain ⟨p, h_p⟩ := h
  exact (n.mem_keys_iff m.key).2 ⟨p, m, h_p, rfl⟩

/-- **Keys that stand at one place.** No key of a node is listed twice exactly when the nodes at
different places have different keys. -/
theorem Node.keys_nodup_iff (n : Node) :
    n.keys.Nodup ↔ ∀ p q key, n.Holds p key → n.Holds q key → p = q := by
  induction n using Node.partInduction with
  | h n ih =>
    rw [Node.keys_eq]
    refine nodup_labels_step (List.nodup_singleton _) (fun _ => Node.holds_nil)
      (fun _ _ _ => Node.holds_cons)
      (fun l _ => Link.mem_keys_of_parts fun m _ => m.mem_keys_iff) fun l h_l => ?_
    cases l with
    | reference _ => simp [Link.keys, Link.Holds]
    | embedded m => rw [Link.keys]; exact ih m h_l

/-! ### Lists of nodes -/

/-- The node at a place of a list of nodes. -/
def nodeAt? (ns : List Node) : Place → Option Node
  | [] => none
  | i :: p => ns[i]?.bind fun n => n.at? p

theorem nodeAt?_cons {ns : List Node} {i : Nat} {p : Place} {m : Node} :
    nodeAt? ns (i :: p) = some m ↔ ∃ n, ns[i]? = some n ∧ n.at? p = some m := by
  rw [nodeAt?, Option.bind_eq_some_iff]

theorem nodeAt?_part {ns : List Node} {p : Place} {n m : Node} {i : Nat}
    (h : nodeAt? ns p = some n) (h_part : n.kind.links[i]? = some (.embedded m)) :
    nodeAt? ns (p ++ [i]) = some m := by
  match p with
  | j :: p =>
    obtain ⟨k, h_k, h_n⟩ := nodeAt?_cons.1 h
    refine nodeAt?_cons.2 ⟨k, h_k, (Node.at?_append h_n).2 ?_⟩
    exact Node.at?_cons.2 ⟨m, h_part, m.at?_nil⟩

theorem exists_nodeAt?_iff {ns : List Node} {m : Node} :
    (∃ p, nodeAt? ns p = some m) ↔ ∃ n ∈ ns, n.Inside m := by
  constructor
  · rintro ⟨_ | ⟨i, p⟩, h⟩
    · cases h
    · obtain ⟨n, h_n, h_m⟩ := nodeAt?_cons.1 h
      exact ⟨n, List.mem_of_getElem? h_n, p, h_m⟩
  · rintro ⟨n, h_n, p, h_m⟩
    obtain ⟨i, h_i⟩ := List.getElem?_of_mem h_n
    exact ⟨i :: p, nodeAt?_cons.2 ⟨n, h_i, h_m⟩⟩

/-- If no key of a list of nodes is listed twice, a key is that of the node at one place only. -/
theorem nodeAt?_unique {ns : List Node} (h : (ns.flatMap Node.keys).Nodup) {p q : Place}
    {n m : Node} (h_p : nodeAt? ns p = some n) (h_q : nodeAt? ns q = some m)
    (h_key : n.key = m.key) : p = q := by
  have h_places := (nodup_flatMap_iff (fun n _ => n.mem_keys_iff) fun n _ => n.keys_nodup_iff).1 h
  match p, q with
  | i :: p, j :: q =>
    obtain ⟨k, h_k, h_n⟩ := nodeAt?_cons.1 h_p
    obtain ⟨l, h_l, h_m⟩ := nodeAt?_cons.1 h_q
    obtain ⟨rfl, rfl⟩ := h_places i j k l p q n.key h_k h_l ⟨n, h_n, rfl⟩ ⟨m, h_m, h_key.symm⟩
    rfl

end Specimen
