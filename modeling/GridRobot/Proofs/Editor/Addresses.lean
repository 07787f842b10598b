import GridRobot.Proofs.Editor.Locality
import Mathlib.Data.List.Lex
import Mathlib.Data.Set.Card

/-!
# Addresses of blocks

Walking a program and following a route are two ways to reach its blocks. The walk goes down the
tree and writes the paths as it goes; a route is followed index by index. With indices that are not
negative the two agree: a route leads to a block exactly if the walk comes by that block with the
same indices as its path. Only a number that is no index keeps a route from being followed. So no
list of blocks may be longer than there are indices (`Program.Indexable`), and none is that can be
held.

* `Block.walk_ascending`: the walk comes by the paths in lexicographic order;
* `Program.exists_parent_of_mem_walk`: it has come by the parent of each child;
* `Editor.get_route_eq_ok_iff`: the routes that lead to a block are the paths of the walk.
-/

namespace GridRobot

/-- The route that follows a path. -/
def Path.route (path : Path) : Route := path.map (fun i : Nat => (i : Int))

/-- The first node comes before the second one in the lexicographic order of their paths. -/
def Block.Ahead (n m : Path × Block) : Prop := List.Lex (· < ·) n.1 m.1

/-! ## The order of a walk -/

namespace Block

variable {path : Path}

/-- A path comes before all longer ones through it. -/
theorem lex_of_prefix {i : Nat} {longer : Path} (h : path ++ [i] <+: longer) :
    List.Lex (· < ·) path longer := by
  rcases h with ⟨rest, rfl⟩
  have hnil : List.Lex (· < ·) (path ++ []) (path ++ i :: rest) :=
    List.Lex.append_left _ List.Lex.nil path
  rwa [List.append_nil, List.append_cons] at hnil

/-- Below one path, all paths through a smaller index come first. -/
theorem lex_of_prefixes {i j : Nat} {p q : Path} (hlt : i < j) (hp : path ++ [i] <+: p)
    (hq : path ++ [j] <+: q) : List.Lex (· < ·) p q := by
  rcases hp with ⟨rest, rfl⟩
  rcases hq with ⟨rest', rfl⟩
  rw [← List.append_cons, ← List.append_cons]
  exact List.Lex.append_left _ (List.Lex.rel hlt) path

/-- Siblings are walked in order if each of them is. -/
theorem walkFrom_ascending_of {bs : List Block}
    (h : ∀ b ∈ bs, ∀ path, (b.walk path).Pairwise Ahead) (path : Path) (index : Nat) :
    (walkFrom path index bs).Pairwise Ahead := by
  induction bs generalizing index with
  | nil => exact List.Pairwise.nil
  | cons b bs ih =>
    rw [walkFrom, List.pairwise_append]
    refine ⟨h b List.mem_cons_self _, ?_, ?_⟩
    · exact ih (fun c hc => h c (List.mem_cons_of_mem b hc)) (index + 1)
    · -- the index under the common path is larger for the later siblings
      intro n hn m hm
      rcases mem_walkFrom_iff.1 hm with ⟨i, c, -, hm⟩
      exact lex_of_prefixes (show index < index + 1 + i by omega) (prefix_of_mem_walk hn)
        (prefix_of_mem_walk hm)

/-- The nodes at and below a block are walked in the order of their paths. -/
theorem walk_ascending (b : Block) (path : Path) : (b.walk path).Pairwise Ahead := by
  induction b using children_induction generalizing path with
  | node b ih =>
    rw [walk_eq, List.pairwise_cons]
    refine ⟨?_, walkFrom_ascending_of ih path 0⟩
    intro n hn
    rcases mem_walkFrom_iff.1 hn with ⟨i, c, -, hn⟩
    exact lex_of_prefix (prefix_of_mem_walk hn)

end Block

namespace Program

variable {p : Program} {path : Path} {b : Block} {k : Nat}

theorem walk_ascending (p : Program) : p.walk.Pairwise Block.Ahead :=
  Block.walkFrom_ascending_of (fun b _ path => b.walk_ascending path) [] 0

/-- The paths of a program are met in their order. -/
theorem paths_ascending (p : Program) : (p.walk.map (·.1)).Pairwise (List.Lex (· < ·)) :=
  List.pairwise_map.2 p.walk_ascending

/-- A walk meets no path twice. -/
theorem paths_nodup (p : Program) : (p.walk.map (·.1)).Nodup := by
  refine p.paths_ascending.imp ?_
  rintro path _ hlex rfl
  exact List.lex_irrefl Nat.lt_irrefl path hlex

theorem not_mem_walk_nil : ([], b) ∉ p.walk := by
  intro h
  rcases mem_walk_iff.1 h with ⟨_, _, _, hpath, -⟩
  cases hpath

/-- The walk comes by a child only if it comes by the parent, where the child has its index. -/
theorem exists_parent_of_mem_walk (hpath : path ≠ []) (h : (path ++ [k], b) ∈ p.walk) :
    ∃ parent, (path, parent) ∈ p.walk ∧ parent.children[k]? = some b := by
  induction path generalizing p with
  | nil => exact absurd rfl hpath
  | cons i rest ih =>
    rcases mem_walk_iff.1 h with ⟨_, _, c, heq, hc, hbelow⟩
    cases heq
    have hbelow : (rest ++ [k], b) ∈ walk c.children := by
      rcases hbelow with ⟨hnil, -⟩ | hbelow
      · cases (List.append_eq_nil_iff.1 hnil).2
      · exact hbelow
    by_cases hrest : rest = []
    · -- the parent is the top-level block
      subst hrest
      refine ⟨c, mem_walk_iff.2 ⟨i, [], c, rfl, hc, Or.inl ⟨rfl, rfl⟩⟩, ?_⟩
      rcases mem_walk_iff.1 hbelow with ⟨_, _, d, heq, hd, hself | hdeeper⟩
      · cases heq
        rw [hd, hself.2]
      · cases heq
        exact absurd hdeeper not_mem_walk_nil
    · rcases ih hrest hbelow with ⟨parent, hparent, hchild⟩
      exact ⟨parent, mem_walk_iff.2 ⟨i, rest, c, rfl, hc, Or.inr hparent⟩, hchild⟩

/-- Only a container has nodes below it. -/
theorem exists_body_of_mem_walk {n : Path × Block} (h : n ∈ walk b.children) :
    ∃ body, b.body? = some body := by
  cases hbody : b.body? with
  | some body => exact ⟨body, rfl⟩
  | none =>
    rw [Block.children, hbody] at h
    cases h

/-- Of two nodes of a walk the one whose path is smaller comes first. -/
theorem lt_of_lex {i j : Nat} {n m : Path × Block} (hn : p.walk[i]? = some n)
    (hm : p.walk[j]? = some m) (hlex : List.Lex (· < ·) n.1 m.1) : i < j := by
  rcases List.getElem?_eq_some_iff.1 hn with ⟨hi, rfl⟩
  rcases List.getElem?_eq_some_iff.1 hm with ⟨hj, rfl⟩
  apply Nat.lt_of_not_le
  intro hle
  rcases Nat.lt_or_eq_of_le hle with hlt | rfl
  · -- in the other order the paths would be larger than each other
    have hback : List.Lex (· < ·) p.walk[j].1 p.walk[i].1 :=
      List.pairwise_iff_getElem.1 p.walk_ascending j i hj hi hlt
    exact List.lex_irrefl Nat.lt_irrefl _ (List.lex_trans Nat.lt_trans hlex hback)
  · exact List.lex_irrefl Nat.lt_irrefl _ hlex

/-- No list of blocks has more places than there are indices. -/
def Indexable (p : Program) : Prop :=
  p.length ≤ Index.bound ∧ p.Everywhere (fun b => b.children.length ≤ Index.bound)

theorem Indexable.children (h : p.Indexable) (hb : b ∈ p) : Indexable b.children := by
  have hbelow := everywhere_iff.1 h.2 b hb
  exact ⟨hbelow.1, hbelow.2⟩

/-- All numbers in the paths of the walk are indices then. -/
theorem Indexable.fits (h : p.Indexable) (hnode : (path, b) ∈ p.walk) :
    ∀ i ∈ path, Index.fits i := by
  induction path generalizing p with
  | nil => exact absurd hnode not_mem_walk_nil
  | cons i rest ih =>
    rcases mem_walk_iff.1 hnode with ⟨_, _, c, heq, hc, hbelow⟩
    cases heq
    have hi : Index.fits i := by
      have hlt := (List.getElem?_eq_some_iff.1 hc).1
      have hle := h.1
      have hpos : 0 ≤ Index.bound := by decide
      rw [Index.fits, Bool.and_eq_true, decide_eq_true_eq, decide_eq_true_eq]
      omega
    rw [List.forall_mem_cons]
    refine ⟨hi, ?_⟩
    rcases hbelow with ⟨rfl, -⟩ | hbelow
    · exact fun j hj => absurd hj List.not_mem_nil
    · exact ih (h.children (List.mem_of_getElem? hc)) hbelow

end Program

/-! ## Routes that follow paths -/

namespace Route

/-- An index that is not negative means the place with its number. -/
theorem means_natCast_iff {i length place : Nat} :
    Means (i : Int) length place ↔ Index.fits i ∧ i < length ∧ place = i := by
  constructor
  · rintro ⟨_, hint, hfits, hlt, hplace⟩
    cases hint
    exact ⟨hfits, by omega, by omega⟩
  · rintro ⟨hfits, hlt, rfl⟩
    exact ⟨_, rfl, hfits, hlt, Or.inl rfl⟩

/-- The route that follows a path leads along it, if it leads anywhere, and to the node that the
walk has there. -/
theorem leads_route_iff {blocks : List Block} {path path' : Path} {b : Block} :
    Leads blocks path.route path' b ↔
      path' = path ∧ (path, b) ∈ Program.walk blocks ∧ ∀ i ∈ path, Index.fits i := by
  -- the path is consumed index by index, and each index leads from some blocks to a body below them
  induction path generalizing blocks path' with
  | nil =>
    constructor
    · intro h
      cases h
    · rintro ⟨-, hnode, -⟩
      exact absurd hnode Program.not_mem_walk_nil
  | cons i rest ih =>
    have hroute : Path.route (i :: rest) = (i : Int) :: Path.route rest := rfl
    rw [List.forall_mem_cons, Program.mem_walk_iff, hroute]
    constructor
    · intro h
      rcases h.exists_cons with ⟨_, _, place, below, -, rfl⟩
      rcases leads_cons_iff.1 h with ⟨_, _, c, heq, hmeans, hc, hend⟩
      cases heq
      rcases means_natCast_iff.1 hmeans with ⟨hfits, -, rfl⟩
      rcases hend with ⟨hnil, rfl, rfl⟩ | ⟨body, hbody, hrest⟩
      · have hrest : rest = [] := List.map_eq_nil_iff.1 hnil
        subst hrest
        exact ⟨rfl, ⟨place, [], c, rfl, hc, Or.inl ⟨rfl, rfl⟩⟩, hfits,
          fun j hj => absurd hj List.not_mem_nil⟩
      · rcases ih.1 hrest with ⟨rfl, hnode, hall⟩
        rw [← Block.children_of_body? hbody] at hnode
        exact ⟨rfl, ⟨place, below, c, rfl, hc, Or.inr hnode⟩, hfits, hall⟩
    · rintro ⟨rfl, ⟨_, _, c, heq, hc, hend⟩, hfits, hall⟩
      cases heq
      have hmeans : Means (i : Int) blocks.length i :=
        means_natCast_iff.2 ⟨hfits, (List.getElem?_eq_some_iff.1 hc).1, rfl⟩
      refine leads_cons_iff.2 ⟨i, Path.route rest, c, rfl, hmeans, hc, ?_⟩
      rcases hend with ⟨rfl, rfl⟩ | hnode
      · exact Or.inl ⟨rfl, rfl, rfl⟩
      · rcases Program.exists_body_of_mem_walk hnode with ⟨body, hbody⟩
        rw [Block.children_of_body? hbody] at hnode
        exact Or.inr ⟨body, hbody, ih.2 ⟨rfl, hnode, hall⟩⟩

/-- Routes without negative indices follow paths. -/
theorem route_toNat {route : Route} (h : ∀ i ∈ route, 0 ≤ i) :
    Path.route (route.map Int.toNat) = route := by
  rw [Path.route, List.map_map]
  conv => rhs; rw [← List.map_id route]
  apply List.map_congr_left
  intro i hi
  exact Int.toNat_of_nonneg (h i hi)

end Route

namespace Editor

variable {e : Editor} {path : Path} {b : Block}

/-- The routes that lead to a block are the paths of the walk whose numbers are indices. -/
theorem get_route_eq_ok_iff : e.get path.route = .ok b ↔
    (path, b) ∈ e.blocks.walk ∧ ∀ i ∈ path, Index.fits i := by
  rw [get_eq_ok_iff_leads]
  constructor
  · rintro ⟨path', hleads⟩
    exact (Route.leads_route_iff.1 hleads).2
  · intro h
    exact ⟨path, Route.leads_route_iff.2 ⟨rfl, h⟩⟩

/-- The routes without negative indices that lead to a block. -/
def addresses (e : Editor) : Set Route :=
  {route | route ≠ [] ∧ (∀ i ∈ route, 0 ≤ i) ∧ ∃ b, e.get route = .ok b}

/-- A route without negative indices is found among the paths of the walk if it leads to a block. -/
theorem mem_walk_of_get {route : Route} (hroute : ∀ i ∈ route, 0 ≤ i) (h : e.get route = .ok b) :
    (route.map Int.toNat, b) ∈ e.blocks.walk := by
  rw [← Route.route_toNat hroute] at h
  exact (get_route_eq_ok_iff.1 h).1

/-- The addresses are the paths of the walk. -/
theorem addresses_eq (h : e.blocks.Indexable) :
    e.addresses = ((e.blocks.walk.map (·.1)).map Path.route).toFinset := by
  ext route
  rw [List.coe_toFinset, Set.mem_ofPred_eq, List.mem_map]
  constructor
  · rintro ⟨-, hroute, b, hget⟩
    exact ⟨_, List.mem_map_of_mem (mem_walk_of_get hroute hget), Route.route_toNat hroute⟩
  · rintro ⟨path, hpath, rfl⟩
    rcases List.mem_map.1 hpath with ⟨⟨_, b⟩, hnode, rfl⟩
    refine ⟨?_, ?_, b, get_route_eq_ok_iff.2 ⟨hnode, h.fits hnode⟩⟩
    · intro hnil
      cases List.map_eq_nil_iff.1 hnil
      exact Program.not_mem_walk_nil hnode
    · intro i hi
      rcases List.mem_map.1 hi with ⟨k, -, rfl⟩
      exact Int.natCast_nonneg k

/-- The walk enumerates the blocks that have an address. It comes by the paths in lexicographic
order, by none twice, and by a parent before its children. Every route without negative indices that
leads to a block is among these paths, with the same block. If all places of the program have an
index, then each path of the walk is such a route, and there are as many addresses as nodes. -/
theorem walk_enumerates_addresses (e : Editor) :
    (e.blocks.walk.map (·.1)).Nodup ∧
    (e.blocks.walk.map (·.1)).Pairwise (List.Lex (· < ·)) ∧
    (∀ (j : Nat) (path : Path) (k : Nat) (b : Block), path ≠ [] →
      e.blocks.walk[j]? = some (path ++ [k], b) →
        ∃ (i : Nat) (parent : Block), i < j ∧ e.blocks.walk[i]? = some (path, parent) ∧
          parent.children[k]? = some b) ∧
    (∀ (route : Route) (b : Block), (∀ i ∈ route, 0 ≤ i) → e.get route = .ok b →
      (route.map Int.toNat, b) ∈ e.blocks.walk) ∧
    (e.blocks.Indexable →
      (∀ n ∈ e.blocks.walk, n.1 ≠ [] ∧ e.get n.1.route = .ok n.2) ∧
      e.blocks.size = e.addresses.ncard) := by
  refine ⟨e.blocks.paths_nodup, e.blocks.paths_ascending, ?_, ?_, ?_⟩
  · intro j path k b hpath hj
    rcases Program.exists_parent_of_mem_walk hpath (List.mem_of_getElem? hj) with
      ⟨parent, hparent, hchild⟩
    rcases List.mem_iff_getElem?.1 hparent with ⟨i, hi⟩
    -- the path of the parent is smaller than that of the child
    have hlt : i < j := Program.lt_of_lex hi hj (Block.lex_of_prefix List.prefix_rfl)
    exact ⟨i, parent, hlt, hi, hchild⟩
  · intro route b hroute hget
    exact mem_walk_of_get hroute hget
  · intro hindexable
    constructor
    · rintro ⟨path, b⟩ hnode
      refine ⟨?_, get_route_eq_ok_iff.2 ⟨hnode, hindexable.fits hnode⟩⟩
      rintro rfl
      exact Program.not_mem_walk_nil hnode
    · have hinjective : Function.Injective Path.route :=
        List.map_injective_iff.2 (fun i j h => Int.ofNat.inj h)
      rw [addresses_eq hindexable, Set.ncard_coe_finset,
        List.toFinset_card_of_nodup (e.blocks.paths_nodup.map hinjective), List.length_map,
        List.length_map]
      rfl

/-- The two children of a loop in a function are walked between the loop and the block behind it,
and the routes with the same indices lead to them. -/
theorem walk_enumerates_addresses_nestedLoop :
    nestedLoop.blocks.Indexable ∧
      nestedLoop.blocks.walk.map (·.1) = [[0], [1], [1, 0], [1, 0, 0], [1, 0, 1], [1, 1]] ∧
      nestedLoop.get ([1, 0, 1] : Route) = .ok (.move (.known .down)) ∧
      nestedLoop.addresses.ncard = 6 := by
  have hindexable : nestedLoop.blocks.Indexable := by
    refine ⟨by decide, ?_⟩
    unfold Program.Everywhere
    decide
  rcases walk_enumerates_addresses nestedLoop with ⟨-, -, -, -, haddressed⟩
  rcases haddressed hindexable with ⟨hfound, hsize⟩
  refine ⟨hindexable, by decide, ?_, hsize.symm.trans (by decide)⟩
  exact (hfound ([1, 0, 1], .move (.known .down)) (by decide)).2

end Editor

end GridRobot
