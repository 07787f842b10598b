import GridRobot.Proofs.Program.Tree

/-!
# Blocks in place of others

A node of a program can be replaced by any number of blocks, which then stand where the node stood,
among its siblings. All other nodes stay, though those behind may move. Two programs that differ by
such a replacement are related by every congruence that relates the node to what replaces it, so it
is enough to compare the blocks that are exchanged.

* `Program.mem_walk_iff`: the nodes of a program are its top-level blocks and the nodes below them;
* `Program.IsCongruence.splice`: a congruence reaches from any node to the whole program.
-/

namespace GridRobot

/-! ## Nodes and their paths -/

/-- A block further down has the same nodes, further down. -/
theorem Block.walk_append (front path : Path) (b : Block) :
    b.walk (front ++ path) = (b.walk path).map (fun n => (front ++ n.1, n.2)) := by
  induction b using Block.children_induction generalizing path with
  | node b ih =>
    have hsiblings (bs : List Block) (hbs : ∀ c ∈ bs, c ∈ b.children) (index : Nat) :
        walkFrom (front ++ path) index bs =
          (walkFrom path index bs).map (fun n => (front ++ n.1, n.2)) := by
      induction bs generalizing index with
      | nil => simp [walkFrom]
      | cons c cs ih' =>
        have hc := ih c (hbs c List.mem_cons_self) (path ++ [index])
        have hcs := ih' (fun d hd => hbs d (List.mem_cons_of_mem c hd)) (index + 1)
        rw [walkFrom, walkFrom, List.map_append, List.append_assoc, hc, hcs]
    rw [walk_eq, walk_eq, List.map_cons, hsiblings b.children (fun c hc => hc) 0]

namespace Block

/-- The nodes at and below a block have paths that begin with its own. -/
theorem prefix_of_mem_walk {path : Path} {b : Block} {n : Path × Block} (h : n ∈ b.walk path) :
    path <+: n.1 := by
  rw [← List.append_nil path, walk_append] at h
  rcases List.mem_map.1 h with ⟨m, -, rfl⟩
  exact List.prefix_append path m.1

theorem length_lt_of_mem_walkFrom {path : Path} {index : Nat} {bs : List Block} {n : Path × Block}
    (h : n ∈ walkFrom path index bs) : path.length < n.1.length := by
  rcases mem_walkFrom_iff.1 h with ⟨i, c, -, hn⟩
  have hle := (prefix_of_mem_walk hn).length_le
  rwa [List.length_append, List.length_singleton] at hle

/-- A node below a path is one of the siblings there, by the rest of its path. -/
theorem mem_walkFrom_of_append {path rest : Path} {bs : List Block} {index : Nat} {b : Block}
    (h : (path ++ rest, b) ∈ walkFrom path index bs) : (rest, b) ∈ walkFrom [] index bs := by
  rcases mem_walkFrom_iff.1 h with ⟨i, c, hc, hn⟩
  rw [walk_append] at hn
  rcases List.mem_map.1 hn with ⟨m, hm, heq⟩
  rcases Prod.mk.inj heq with ⟨hpath, hblock⟩
  refine mem_walkFrom_iff.2 ⟨i, c, hc, ?_⟩
  rw [← List.append_cancel_left hpath, ← hblock]
  exact hm

/-- The path of a node shows behind which of the siblings it is. -/
theorem index_eq_of_mem_walk {path : Path} {b : Block} {i j : Nat} {n : Path × Block}
    (hn : n ∈ b.walk (path ++ [i])) (hj : path ++ [j] <+: n.1) : i = j := by
  have hi := prefix_of_mem_walk hn
  have heq := (List.prefix_of_prefix_length_le hi hj (by simp)).eq_of_length (by simp)
  simpa using heq

/-- Of the nodes of some siblings those behind one of them are its own nodes. -/
theorem walkFrom_filter {bs : List Block} {i : Nat} {b : Block} (hb : bs[i]? = some b)
    (path : Path) (index : Nat) :
    (walkFrom path index bs).filter (fun n => path ++ [index + i] <+: n.1) =
      b.walk (path ++ [index + i]) := by
  induction bs generalizing index i with
  | nil => cases hb
  | cons c bs ih =>
    rw [walkFrom, List.filter_append]
    cases i with
    | zero =>
      cases hb
      -- the block that is looked for comes first: all of its walk is kept, nothing after it
      have hown : (b.walk (path ++ [index])).filter (fun n => path ++ [index] <+: n.1) =
          b.walk (path ++ [index]) := by
        rw [List.filter_eq_self]
        intro n hn
        exact decide_eq_true (prefix_of_mem_walk hn)
      have hrest : (walkFrom path (index + 1) bs).filter (fun n => path ++ [index] <+: n.1) =
          [] := by
        rw [List.filter_eq_nil_iff]
        intro n hn hbelow
        rcases mem_walkFrom_iff.1 hn with ⟨j, d, -, hn⟩
        have hsame := index_eq_of_mem_walk hn (of_decide_eq_true hbelow)
        omega
      rw [Nat.add_zero, hown, hrest, List.append_nil]
    | succ i =>
      -- it comes later: nothing of the walk of the first block lies below it
      have hfirst : (c.walk (path ++ [index])).filter
          (fun n => path ++ [index + (i + 1)] <+: n.1) = [] := by
        rw [List.filter_eq_nil_iff]
        intro n hn hbelow
        have hsame := index_eq_of_mem_walk hn (of_decide_eq_true hbelow)
        omega
      have hrest := ih hb (index + 1)
      rw [show index + 1 + i = index + (i + 1) by omega] at hrest
      rw [hfirst, hrest, List.nil_append]

/-- The nodes at and below a top-level block. -/
theorem walk_singleton (i : Nat) (b : Block) :
    b.walk [i] = ([i], b) :: (Program.walk b.children).map (fun n => ([i] ++ n.1, n.2)) := by
  rw [← List.append_nil [i], walk_append, walk_eq, List.map_cons, List.append_nil]
  rfl

end Block

namespace Program

/-- A node is a top-level block, or a node below the top-level block to which its path leads
first. -/
theorem mem_walk_iff {p : Program} {path : Path} {b : Block} :
    (path, b) ∈ p.walk ↔ ∃ i rest c, path = i :: rest ∧ p[i]? = some c ∧
      (rest = [] ∧ c = b ∨ (rest, b) ∈ walk c.children) := by
  have hblock (i : Nat) (c : Block) :
      c.walk ([] ++ [0 + i]) =
        ([i], c) :: (walk c.children).map (fun n => ([i] ++ n.1, n.2)) := by
    rw [List.nil_append, Nat.zero_add, Block.walk_singleton]
  rw [walk, Block.mem_walkFrom_iff]
  constructor
  · rintro ⟨i, c, hc, hnode⟩
    rw [hblock, List.mem_cons, List.mem_map] at hnode
    rcases hnode with hself | ⟨⟨rest, d⟩, hbelow, heq⟩
    · cases hself
      exact ⟨i, [], _, rfl, hc, Or.inl ⟨rfl, rfl⟩⟩
    · cases heq
      exact ⟨i, rest, c, rfl, hc, Or.inr hbelow⟩
  · rintro ⟨i, rest, c, rfl, hc, hnode⟩
    refine ⟨i, c, hc, ?_⟩
    rw [hblock, List.mem_cons, List.mem_map]
    rcases hnode with ⟨rfl, rfl⟩ | hbelow
    · exact Or.inl rfl
    · exact Or.inr ⟨(rest, b), hbelow, rfl⟩

/-! ## Replacing a node -/

/-- The program in which other blocks stand in place of the node at a path. -/
def splice : Program → Path → List Block → Program
  | p, [], _ => p
  | p, [i], new => p.take i ++ new ++ p.drop (i + 1)
  | p, i :: j :: path, new => p.modify i (fun b => b.withBody (splice b.children (j :: path) new))

/-- What relates programs block by block, and containers by their bodies. -/
structure IsCongruence (R : Program → Program → Prop) : Prop where
  refl : ∀ p, R p p
  append : ∀ {p p' q q'}, R p p' → R q q' → R (p ++ q) (p' ++ q')
  body : ∀ {b : Block} {body}, R b.children body → R [b] [b.withBody body]

namespace IsCongruence

variable {R : Program → Program → Prop}

/-- One block among its siblings may be replaced. -/
theorem sibling (hR : IsCongruence R) {p new : Program} {i : Nat} {b : Block}
    (hb : p[i]? = some b) (hnew : R [b] new) : R p (p.take i ++ new ++ p.drop (i + 1)) := by
  obtain ⟨hi, hget⟩ := List.getElem?_eq_some_iff.1 hb
  have hsplit : p = p.take i ++ [b] ++ p.drop (i + 1) := by
    rw [← hget, List.append_assoc, List.singleton_append, List.getElem_cons_drop,
      List.take_append_drop]
  have hall : R (p.take i ++ [b] ++ p.drop (i + 1)) (p.take i ++ new ++ p.drop (i + 1)) :=
    hR.append (hR.append (hR.refl _) hnew) (hR.refl _)
  rwa [← hsplit] at hall

/-- A congruence reaches from any node to the whole program. -/
theorem splice (hR : IsCongruence R) {p new : Program} {path : Path} {b : Block}
    (hnode : (path, b) ∈ p.walk) (hnew : R [b] new) : R p (p.splice path new) := by
  -- the path leads down to the node, and each block on the way is related by its body
  induction path generalizing p with
  | nil =>
    obtain ⟨i, rest, c, hpath, -⟩ := mem_walk_iff.1 hnode
    cases hpath
  | cons i rest ih =>
    obtain ⟨_, _, c, hpath, hc, hbelow⟩ := mem_walk_iff.1 hnode
    cases hpath
    cases rest with
    | nil =>
      have hself : c = b := by
        rcases hbelow with ⟨-, hself⟩ | hbelow
        · exact hself
        · obtain ⟨_, _, _, hpath, -⟩ := mem_walk_iff.1 hbelow
          cases hpath
      subst hself
      exact hR.sibling hc hnew
    | cons j rest =>
      rcases hbelow with ⟨hrest, -⟩ | hbelow
      · cases hrest
      · obtain ⟨hi, hget⟩ := List.getElem?_eq_some_iff.1 hc
        have hblock : R [c] [c.withBody (Program.splice c.children (j :: rest) new)] :=
          hR.body (ih hbelow)
        have hall := hR.sibling hc hblock
        rw [Program.splice, List.modify_eq_take_cons_drop hi, hget]
        rwa [List.append_assoc, List.singleton_append] at hall

end IsCongruence

end Program

end GridRobot
