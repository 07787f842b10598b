import GridRobot.Editor
import GridRobot.Proofs.Program.Gap

/-!
# What edits do

A route leads to a block of the program under construction, and the rest of the program is a gap
around it. What is put at the route goes into that gap. So every edit that does anything does one of
a few things (`Editor.Changes`), and it is not refused then, with one exception: a child is in its
place before it turns out that its route cannot be put together.

* `Editor.get_eq_ok_iff`: a route leads to the block in the gap that it means;
* `Editor.put_fill`: what is put at a route fills that gap;
* `Editor.perform_cases`: what an edit can do;
* `Editor.after_induction`: what every edit keeps is kept by any edits.
-/

namespace GridRobot

variable {ι : Type} [RouteIndex ι]

/-- The palette has the kind of what is handed over; where there is no palette, anything will do. -/
def Rules.Offers (r : Rules) (s : Supply) : Prop :=
  ∀ kinds, r.palette = some kinds → ∃ k ∈ kinds, s.toBlock.kind? = .ok k

/-! ## Indices -/

namespace Route

/-- The index means a place in a list of the given length: it counts from the front or, if it is
negative, from the end. -/
def Means (index : ι) (length place : Nat) : Prop :=
  ∃ n : Int, RouteIndex.toInt? index = some n ∧ Index.fits n ∧ place < length ∧
    (n = place ∨ n = place - length)

/-- An index means a place if it counts up to it from the front or from behind. -/
theorem place?_eq_some_iff {n : Int} {length place : Nat} :
    place? n length = some place ↔ place < length ∧ (n = place ∨ n = place - length) := by
  unfold place?
  by_cases hn : n < 0
  · simp only [hn, if_true]
    grind
  · simp only [hn, if_false]
    grind

/-- What an index means is said by the integer that it is. -/
theorem means_iff {index : ι} {n : Int} (h : RouteIndex.toInt? index = some n)
    {length place : Nat} :
    Means index length place ↔ Index.fits n ∧ place? n length = some place := by
  simp only [Means, h, Option.some.injEq, exists_eq_left', place?_eq_some_iff]

theorem means_of_none {index : ι} (h : RouteIndex.toInt? index = none) (length place : Nat) :
    ¬ Means index length place := by
  rintro ⟨n, hn, -⟩
  rw [h] at hn
  cases hn

end Route

namespace Editor

open Route

variable {index : ι} {blocks : List Block} {b : Block}

/-- What stands at a place stands between what is in front of it and what is behind it. -/
theorem exists_split {place : Nat} (h : blocks[place]? = some b) :
    ∃ front back, blocks = front ++ b :: back ∧ front.length = place := by
  rcases List.getElem?_eq_some_iff.1 h with ⟨hlt, hget⟩
  refine ⟨blocks.take place, blocks.drop (place + 1), ?_, ?_⟩
  · rw [← hget, List.getElem_cons_drop, List.take_append_drop]
  · rw [List.length_take, Nat.min_eq_left (Nat.le_of_lt hlt)]

omit [RouteIndex ι] in
/-- A block is picked exactly from the place that the index means. -/
theorem pick_eq_ok_iff {missing : EditFault ι} {n : Int} :
    pick missing n blocks = .ok b ↔ ∃ front back, blocks = front ++ b :: back ∧ Index.fits n ∧
      place? n blocks.length = some front.length := by
  have hfound : (place? n blocks.length).bind (blocks[·]?) = some b ↔
      ∃ front back, blocks = front ++ b :: back ∧
        place? n blocks.length = some front.length := by
    rw [Option.bind_eq_some_iff]
    constructor
    · rintro ⟨place, hplace, hb⟩
      rcases exists_split hb with ⟨front, back, hblocks, rfl⟩
      exact ⟨front, back, hblocks, hplace⟩
    · rintro ⟨front, back, rfl, hplace⟩
      exact ⟨front.length, hplace, by simp⟩
  unfold pick
  cases Index.fits n with
  | false => simp
  | true =>
    rw [if_pos rfl]
    simp only [true_and, ← hfound]
    cases (place? n blocks.length).bind (blocks[·]?) <;> simp

theorem pickBlock_eq_ok_iff : pickBlock index blocks = .ok b ↔
    ∃ front back, blocks = front ++ b :: back ∧ Means index blocks.length front.length := by
  unfold pickBlock
  cases h : RouteIndex.toInt? index with
  | none => simp [means_of_none h]
  | some n => simp only [pick_eq_ok_iff, means_iff h]

theorem pickChild_eq_ok_iff : pickChild index blocks = .ok b ↔
    ∃ front back, blocks = front ++ b :: back ∧ Means index blocks.length front.length := by
  unfold pickChild
  cases h : RouteIndex.toInt? index with
  | none => simp [means_of_none h]
  | some n => simp only [pick_eq_ok_iff, means_iff h]

end Editor

/-! ## Routes -/

namespace Gap

open Route

variable {route : Route ι} {index : ι} {blocks : List Block} {gap : Gap} {b : Block}

/-- The route leads to the gap. -/
def ReachedBy : Gap → Route ι → Prop
  | among front back, route =>
    ∃ index, route = [index] ∧ Means index (front.length + (back.length + 1)) front.length
  | within front _ _ back gap, route =>
    ∃ index rest, route = index :: rest ∧
      Means index (front.length + (back.length + 1)) front.length ∧ gap.ReachedBy rest

theorem ReachedBy.ne_nil (h : gap.ReachedBy route) : route ≠ [] := by
  cases gap with
  | among =>
    rcases h with ⟨index, rfl, -⟩
    exact List.cons_ne_nil _ _
  | within =>
    rcases h with ⟨index, rest, rfl, -⟩
    exact List.cons_ne_nil _ _

/-- A route leads first to one of the blocks, and then on into its body if there is more of it. -/
theorem exists_reached_cons_iff {rest : Route ι} :
    (∃ gap : Gap, blocks = gap.fill b ∧ gap.ReachedBy (index :: rest)) ↔
      ∃ front child back, blocks = front ++ child :: back ∧
        Means index blocks.length front.length ∧
        (rest = [] ∧ child = b ∨
          ∃ body, child.body? = some body ∧
            ∃ gap : Gap, body = gap.fill b ∧ gap.ReachedBy rest) := by
  constructor
  · -- the route ends in a gap among the blocks, and goes on in one within a block
    rintro ⟨gap, rfl, hreached⟩
    cases gap with
    | among front back =>
      rcases hreached with ⟨_, hroute, hmeans⟩
      cases hroute
      refine ⟨front, b, back, rfl, ?_, Or.inl ⟨rfl, rfl⟩⟩
      rwa [fill, List.length_append, List.length_cons]
    | within front holder holds back gap =>
      rcases hreached with ⟨_, _, hroute, hmeans, hrest⟩
      cases hroute
      refine ⟨front, holder.withBody (gap.fill b), back, rfl, ?_, Or.inr ?_⟩
      · rwa [fill, List.length_append, List.length_cons]
      · exact ⟨gap.fill b, Block.body?_withBody holds, gap, rfl, hrest⟩
  · rintro ⟨front, child, back, rfl, hmeans, hself | ⟨body, hbody, gap, rfl, hrest⟩⟩
    · rcases hself with ⟨rfl, rfl⟩
      rw [List.length_append, List.length_cons] at hmeans
      exact ⟨among front back, rfl, index, rfl, hmeans⟩
    · rw [List.length_append, List.length_cons] at hmeans
      refine ⟨within front child (Option.isSome_of_mem hbody) back gap, ?_, ?_⟩
      · rw [fill, Block.withBody_of_body? hbody]
      · exact ⟨index, rest, rfl, hmeans, hrest⟩

/-- A block that a route passes on its way to a gap has the rest of the way in its body, behind one
of the children. -/
theorem ReachedBy.above {above rest : Route ι} (h : gap.ReachedBy (above ++ index :: rest))
    (habove : above ≠ []) :
    ∃ (outer : Gap) (holder : Block) (front back : List Block) (inner : Block → Block),
      holder.body?.isSome ∧ outer.ReachedBy above ∧
      Means index (front.length + (back.length + 1)) front.length ∧
      (∀ b, gap.fill b = outer.fill (holder.withBody (front ++ inner b :: back))) ∧
      (rest = [] → inner = id) := by
  induction gap generalizing above with
  | among front back =>
    rcases h with ⟨_, hroute, -⟩
    rcases List.append_eq_singleton_iff.1 hroute with ⟨hnil, -⟩ | ⟨-, hnil⟩
    · exact absurd hnil habove
    · cases hnil
  | within front holder holds back gap ih =>
    rcases h with ⟨first, _, hroute, hmeans, hrest⟩
    rcases List.exists_cons_of_ne_nil habove with ⟨_, above, rfl⟩
    cases hroute
    cases above with
    | cons next above =>
      rcases ih hrest (List.cons_ne_nil next above) with
        ⟨outer, inside, front', back', inner, hholds, houter, hindex, hfill, hinner⟩
      refine ⟨.within front holder holds back outer, inside, front', back', inner, hholds, ?_,
        hindex, ?_, hinner⟩
      · exact ⟨first, _, rfl, hmeans, houter⟩
      · intro b
        rw [fill, fill, hfill]
    | nil =>
      -- the block is the holder, so the next index means one of its children
      have houter : (among front back).ReachedBy [first] := ⟨first, rfl, hmeans⟩
      cases gap with
      | among front' back' =>
        rcases hrest with ⟨_, hroute, hindex⟩
        cases hroute
        exact ⟨.among front back, holder, front', back', id, holds, houter, hindex, fun _ => rfl,
          fun _ => rfl⟩
      | within front' holder' holds' back' gap =>
        rcases hrest with ⟨_, _, hroute, hindex, hrest⟩
        cases hroute
        exact ⟨.among front back, holder, front', back', fun b => holder'.withBody (gap.fill b),
          holds, houter, hindex, fun _ => rfl, fun hnil => absurd hnil hrest.ne_nil⟩

end Gap

namespace Editor

variable {e : Editor} {route : Route ι} {gap : Gap} {b c : Block}

/-- To descend by a route is to reach a gap, and what is found is the block that fills it. -/
theorem descend_eq_ok_iff {whole : Route ι} : descend whole route b = .ok c ↔
    route = [] ∧ b = c ∨
      ∃ body, b.body? = some body ∧ ∃ gap : Gap, body = gap.fill c ∧ gap.ReachedBy route := by
  induction route generalizing b with
  | nil =>
    constructor
    · intro h
      cases h
      exact Or.inl ⟨rfl, rfl⟩
    · rintro (⟨-, rfl⟩ | ⟨body, -, gap, -, hreached⟩)
      · rfl
      · exact absurd rfl hreached.ne_nil
  | cons index rest ih =>
    rw [descend]
    -- a gap below begins with a place in the body, and goes on below the child there
    simp only [Gap.exists_reached_cons_iff, ← ih, reduceCtorEq, false_and, false_or]
    cases b.body? with
    | none => simp
    | some body =>
      simp only [Option.some.injEq, exists_eq_left']
      constructor
      · intro h
        cases hpick : pickChild index body with
        | error f =>
          rw [hpick] at h
          cases h
        | ok child =>
          rw [hpick] at h
          rcases pickChild_eq_ok_iff.1 hpick with ⟨front, back, hbody, hmeans⟩
          exact ⟨front, child, back, hbody, hmeans, h⟩
      · rintro ⟨front, child, back, hbody, hmeans, h⟩
        rw [pickChild_eq_ok_iff.2 ⟨front, back, hbody, hmeans⟩]
        exact h

/-- A route leads to the block in the gap that it means. -/
theorem get_eq_ok_iff :
    e.get route = .ok b ↔ ∃ gap : Gap, e.blocks = gap.fill b ∧ gap.ReachedBy route := by
  cases route with
  | nil =>
    constructor
    · intro h
      cases h
    · rintro ⟨gap, -, hreached⟩
      exact absurd rfl hreached.ne_nil
  | cons index rest =>
    rw [Gap.exists_reached_cons_iff, get]
    constructor
    · intro h
      cases hpick : pickBlock index e.blocks with
      | error f =>
        rw [hpick] at h
        cases h
      | ok child =>
        rw [hpick] at h
        rcases pickBlock_eq_ok_iff.1 hpick with ⟨front, back, hblocks, hmeans⟩
        exact ⟨front, child, back, hblocks, hmeans, descend_eq_ok_iff.1 h⟩
    · rintro ⟨front, child, back, hblocks, hmeans, h⟩
      rw [pickBlock_eq_ok_iff.2 ⟨front, back, hblocks, hmeans⟩]
      exact descend_eq_ok_iff.2 h

/-- To set a place is to exchange the block between those in front and those behind. -/
theorem set_among (front back : List Block) (b c : Block) :
    (front ++ b :: back).set front.length c = front ++ c :: back := by
  rw [List.set_append_right _ _ (Nat.le_refl _), Nat.sub_self, List.set_cons_zero]

/-- An index that means a place leads to that place among blocks that shall be changed. -/
theorem placeOf_of_means {index : ι} {blocks : List Block} {place : Nat}
    (h : Route.Means index blocks.length place) : placeOf index blocks = .ok place := by
  rcases h with ⟨n, hn, hfits, hplace⟩
  rw [placeOf, hn]
  dsimp only
  rw [if_pos hfits, Route.place?_eq_some_iff.2 hplace]

/-- What is put at a route stands in the gap that the route means. -/
theorem replaceAt_fill {whole : Route ι} (h : gap.ReachedBy route) :
    replaceAt c whole route (gap.fill b) = .ok (gap.fill c) := by
  -- at every level the index is read as the place of the gap
  have hat {index : ι} {front back : List Block} {child : Block}
      (hmeans : Route.Means index (front.length + (back.length + 1)) front.length) :
      placeOf index (front ++ child :: back) = .ok front.length := by
    apply placeOf_of_means
    rwa [List.length_append, List.length_cons]
  induction gap generalizing route with
  | among front back =>
    rcases h with ⟨index, rfl, hmeans⟩
    rw [Gap.fill, replaceAt, hat hmeans]
    dsimp only
    rw [set_among, Gap.fill]
  | within front holder holds back gap ih =>
    rcases h with ⟨index, rest, rfl, hmeans, hrest⟩
    have hchild : (front ++ holder.withBody (gap.fill b) :: back)[front.length]? =
        some (holder.withBody (gap.fill b)) := by simp
    cases rest with
    | nil => exact absurd rfl hrest.ne_nil
    | cons next rest =>
      rw [Gap.fill, replaceAt, hat hmeans]
      dsimp only
      rw [hchild]
      dsimp only
      rw [Block.body?_withBody holds]
      dsimp only
      rw [ih hrest]
      dsimp only
      rw [set_among, Block.withBody_withBody, Gap.fill]

/-- What is put at a route fills the gap that the route means. -/
theorem put_fill (hblocks : e.blocks = gap.fill b) (h : gap.ReachedBy route) :
    e.put route c = .ok { e with blocks := gap.fill c } := by
  rw [put, hblocks, replaceAt_fill h]
  rfl

/-! ## Blocks that are handed over -/

omit [RouteIndex ι] in
theorem accept_eq_ok_iff {s : Supply} :
    (e.accept s : Except (EditFault ι) Block) = .ok b ↔ e.rules.Offers s ∧ b = s.toBlock := by
  unfold accept Rules.Offers
  cases hpalette : e.rules.palette with
  | none => simp [eq_comm]
  | some kinds =>
    have hallows (k : Kind) : e.rules.allows k = true ↔ k ∈ kinds := by
      simp [Rules.allows, hpalette]
    cases hkind : s.toBlock.kind? with
    | error d => simp
    | ok k =>
      by_cases hk : k ∈ kinds
      · simp [hallows, hk, eq_comm]
      · simp [hallows, hk]

/-! ## What an edit can do -/

/-- A block is added at the end, unless it is not offered or the editor is full. -/
theorem add_cases (e : Editor) (s : Supply) :
    (∃ f, e.add s = ((.error f : Except (EditFault ι) Nat), e)) ∨
      e.rules.Offers s ∧ e.isFull = false ∧
        e.add s = ((.ok e.blocks.length : Except (EditFault ι) Nat),
          { e with blocks := e.blocks ++ [s.toBlock] }) := by
  unfold add
  cases haccept : (e.accept s : Except (EditFault ι) Block) with
  | error f => exact Or.inl ⟨f, rfl⟩
  | ok b =>
    rcases accept_eq_ok_iff.1 haccept with ⟨hoffers, rfl⟩
    dsimp only
    split
    · exact Or.inl ⟨_, rfl⟩
    · next hroom =>
      refine Or.inr ⟨hoffers, ?_, rfl⟩
      -- an editor that is full has a limit
      cases hfull : e.isFull with
      | false => rfl
      | true =>
        cases hlimit : e.rules.limit with
        | none => simp [isFull, hlimit] at hfull
        | some limit => exact absurd hlimit (hroom limit hfull)

/-- The block at a place is taken out, unless the index means none. -/
theorem remove_cases (e : Editor) (index : ι) :
    (∃ f, e.remove index = (.error f, e)) ∨
      ∃ front b back, e.blocks = front ++ b :: back ∧
        Route.Means index e.blocks.length front.length ∧
        e.remove index = (.ok b, { e with blocks := front ++ back }) := by
  unfold remove
  cases hn : RouteIndex.toInt? index with
  | none => exact Or.inl ⟨_, rfl⟩
  | some n =>
    dsimp only
    split
    · exact Or.inl ⟨_, rfl⟩
    · next hfits =>
      split
      · exact Or.inl ⟨_, rfl⟩
      · split
        · exact Or.inl ⟨_, rfl⟩
        · next place hplace =>
          split
          · exact Or.inl ⟨_, rfl⟩
          · next b hb =>
            rcases exists_split hb with ⟨front, back, hblocks, rfl⟩
            refine Or.inr ⟨front, b, back, hblocks, ?_, ?_⟩
            · exact (Route.means_iff hn).2 ⟨by simpa using hfits, hplace⟩
            · rw [hblocks, List.eraseIdx_append_of_length_le (Nat.le_refl _), Nat.sub_self,
                List.eraseIdx_cons_zero]

/-- The route of a new child, or why it cannot be put together. -/
def childRoute (route : Route ι) (body : List Block) : RouteForm → Except (EditFault ι) (Route ι)
  | .tuple => .ok (route ++ [RouteIndex.ofNat body.length])
  | .list => .error .notATuple

/-- A child is added at the end of a body that the route leads to, whatever is answered then;
otherwise nothing happens. -/
theorem addChild_cases (e : Editor) (route : Route ι) (s : Supply) (form : RouteForm) :
    (∃ f, e.addChild route s form = (.error f, e)) ∨
      ∃ (gap : Gap) (parent : Block) (body : List Block), e.rules.Offers s ∧
        e.blocks = gap.fill parent ∧ gap.ReachedBy route ∧ parent.body? = some body ∧
        e.addChild route s form = (childRoute route body form,
          { e with blocks := gap.fill (parent.withBody (body ++ [s.toBlock])) }) := by
  unfold addChild
  cases haccept : (e.accept s : Except (EditFault ι) Block) with
  | error f => exact Or.inl ⟨f, rfl⟩
  | ok b =>
    rcases accept_eq_ok_iff.1 haccept with ⟨hoffers, rfl⟩
    dsimp only
    cases hget : e.get route with
    | error f => exact Or.inl ⟨f, rfl⟩
    | ok parent =>
      dsimp only
      cases hbody : parent.body? with
      | none =>
        dsimp only
        split
        · exact Or.inl ⟨_, rfl⟩
        · exact Or.inl ⟨_, rfl⟩
      | some body =>
        rcases get_eq_ok_iff.1 hget with ⟨gap, hblocks, hreached⟩
        refine Or.inr ⟨gap, parent, body, hoffers, hblocks, hreached, hbody, ?_⟩
        dsimp only
        rw [put_fill hblocks hreached]
        cases form <;> rfl

/-- A child is removed from the body of its parent, as far as `without` does so. -/
theorem removeChild_of_reached {above : Route ι} {last : ι} {parent : Block}
    {front back : List Block} {n : Int} (hblocks : e.blocks = gap.fill parent)
    (hreached : gap.ReachedBy above) (hbody : parent.body? = some (front ++ b :: back))
    (hn : RouteIndex.toInt? last = some n)
    (hmeans : Route.Means last (front ++ b :: back).length front.length) :
    e.removeChild (above ++ [last]) =
      (.ok b, { e with
        blocks := gap.fill (parent.withBody (without n (front ++ b :: back))) }) := by
  have hparent : e.get above = .ok parent := get_eq_ok_iff.2 ⟨gap, hblocks, hreached⟩
  have hchild : pickChild last (front ++ b :: back) = .ok b :=
    pickChild_eq_ok_iff.2 ⟨front, back, rfl, hmeans⟩
  -- with two indices or more, the child is looked up in the body that the others lead to
  rcases List.exists_cons_of_ne_nil hreached.ne_nil with ⟨first, rest, rfl⟩
  rcases List.exists_cons_of_ne_nil (List.concat_ne_nil last rest) with ⟨next, more, hmore⟩
  have habove : (first :: next :: more).dropLast = first :: rest := by
    rw [← hmore, ← List.cons_append, List.dropLast_concat]
  have hlast : (next :: more).getLast?.getD first = last := by
    rw [← hmore, List.getLast?_concat, Option.getD_some]
  rw [List.cons_append, hmore]
  unfold removeChild
  dsimp only
  rw [habove, hparent]
  dsimp only
  rw [hbody, hlast]
  dsimp only
  rw [hchild]
  dsimp only
  rw [hn, Option.getD_some, put_fill hblocks hreached]

/-- A child is taken from a body as the slices have it. A route with one index only removes a
top-level block. -/
theorem removeChild_cases (e : Editor) (route : Route ι) :
    (∃ f, e.removeChild route = (.error f, e)) ∨
      (∃ index, route = [index] ∧ e.removeChild route = e.remove index) ∨
      ∃ (gap : Gap) (parent : Block) (above : Route ι) (last : ι) (n : Int) (front : List Block)
        (b : Block) (back : List Block), route = above ++ [last] ∧
          e.blocks = gap.fill parent ∧ gap.ReachedBy above ∧
          parent.body? = some (front ++ b :: back) ∧ RouteIndex.toInt? last = some n ∧
          Route.Means last (front ++ b :: back).length front.length := by
  -- there is no child without an index, and with one index it is a top-level block
  rcases route with _ | ⟨first, _ | ⟨next, more⟩⟩
  · exact Or.inl ⟨_, rfl⟩
  · exact Or.inr (Or.inl ⟨first, rfl, rfl⟩)
  · unfold removeChild
    dsimp only
    cases hparent : e.get (first :: next :: more).dropLast with
    | error f => exact Or.inl ⟨_, rfl⟩
    | ok parent =>
      dsimp only
      cases hbody : parent.body? with
      | none => exact Or.inl ⟨_, rfl⟩
      | some body =>
        dsimp only
        cases hchild : pickChild ((next :: more).getLast?.getD first) body with
        | error f => exact Or.inl ⟨_, rfl⟩
        | ok b =>
          rcases get_eq_ok_iff.1 hparent with ⟨gap, hblocks, hreached⟩
          rcases pickChild_eq_ok_iff.1 hchild with ⟨front, back, rfl, hmeans⟩
          rcases hmeans with ⟨n, hn, hplace⟩
          refine Or.inr (Or.inr ⟨gap, parent, _, _, n, front, b, back, ?_, hblocks, hreached, hbody,
            hn, n, hn, hplace⟩)
          -- the route is what leads to the parent, with the last index behind it
          rw [List.getLast?_eq_some_getLast (List.cons_ne_nil next more), Option.getD_some,
            List.dropLast_cons_of_ne_nil (List.cons_ne_nil next more), List.cons_append,
            List.dropLast_concat_getLast]

/-- A block is exchanged for one with the settings given, if it takes all of them. -/
theorem configure_cases (e : Editor) (route : Route ι) (updates : List Update) :
    (∃ f, e.configure route updates = (.error f, e)) ∨
      ∃ (gap : Gap) (b : Block), e.blocks = gap.fill b ∧ gap.ReachedBy route ∧
        (∀ u ∈ updates, u.isTaken = false ∧ b.takes u = true) ∧
        e.configure route updates = (.ok (updates.foldl Block.update b),
          { e with blocks := gap.fill (updates.foldl Block.update b) }) := by
  unfold configure
  cases htaken : updates.find? Update.isTaken with
  | some u => exact Or.inl ⟨_, rfl⟩
  | none =>
    dsimp only
    cases hget : e.get route with
    | error f => exact Or.inl ⟨_, rfl⟩
    | ok b =>
      dsimp only
      split
      · rcases get_eq_ok_iff.1 hget with ⟨gap, hblocks, hreached⟩
        split
        · exact Or.inl ⟨_, rfl⟩
        · next htakes =>
          refine Or.inr ⟨gap, b, hblocks, hreached, ?_, ?_⟩
          · intro u hu
            have hfree := List.find?_eq_none.1 htaken u hu
            have hown := List.find?_eq_none.1 htakes u hu
            exact ⟨by simpa using hfree, by simpa using hown⟩
          · rw [put_fill hblocks hreached]
      · exact Or.inl ⟨_, rfl⟩

/-- What an edit that does what it is for answers, and the blocks that it leaves. -/
inductive Changes (e : Editor) :
    Edit ι → Except (EditFault ι) (EditAnswer ι) → Program → Prop
  | added {s : Supply} (hoffers : e.rules.Offers s) (hroom : e.isFull = false) :
    Changes e (.add s) (.ok (.index e.blocks.length)) (e.blocks ++ [s.toBlock])
  /-- A top-level block is removed, by its index or by the route that is the index alone. -/
  | removed {edit : Edit ι} {index : ι} {front back : List Block} {b : Block}
      (hedit : edit = .remove index ∨ edit = .removeChild [index])
      (hblocks : e.blocks = front ++ b :: back)
      (hmeans : Route.Means index e.blocks.length front.length) :
    Changes e edit (.ok (.block b)) (front ++ back)
  | cleared : Changes e .clear (.ok .done) []
  /-- The child is in its place, whether its route can be put together or not. -/
  | childAdded {route : Route ι} {s : Supply} {form : RouteForm} {gap : Gap} {parent : Block}
      {body : List Block} {answer : Except (EditFault ι) (EditAnswer ι)}
      (hoffers : e.rules.Offers s) (hblocks : e.blocks = gap.fill parent)
      (hreached : gap.ReachedBy route) (hbody : parent.body? = some body)
      (hanswer : answer = (childRoute route body form).map .route) :
    Changes e (.addChild route s form) answer
      (gap.fill (parent.withBody (body ++ [s.toBlock])))
  | childRemoved {above : Route ι} {last : ι} {n : Int} {gap : Gap} {parent b : Block}
      {front back : List Block} (hblocks : e.blocks = gap.fill parent)
      (hreached : gap.ReachedBy above) (hbody : parent.body? = some (front ++ b :: back))
      (hn : RouteIndex.toInt? last = some n)
      (hmeans : Route.Means last (front ++ b :: back).length front.length) :
    Changes e (.removeChild (above ++ [last])) (.ok (.block b))
      (gap.fill (parent.withBody (without n (front ++ b :: back))))
  | configured {route : Route ι} {updates : List Update} {gap : Gap} {b : Block}
      (hblocks : e.blocks = gap.fill b) (hreached : gap.ReachedBy route)
      (htakes : ∀ u ∈ updates, u.isTaken = false ∧ b.takes u = true) :
    Changes e (.configure route updates) (.ok (.block (updates.foldl Block.update b)))
      (gap.fill (updates.foldl Block.update b))
  | found {route : Route ι} {b : Block} (hget : e.get route = .ok b) :
    Changes e (.get route) (.ok (.block b)) e.blocks
  | built (hkept : (e.blocks.check e.rules).issues = []) :
    Changes e .build (.ok (.program e.blocks)) e.blocks

/-- An edit that does what it is for is refused only if the route of a new child cannot be put
together. -/
theorem Changes.of_error {edit : Edit ι} {f : EditFault ι} {blocks : Program}
    (h : e.Changes edit (.error f) blocks) :
    f = .notATuple ∧ ∃ route s, edit = .addChild route s .list := by
  cases h with
  | @childAdded route s form gap parent body _ hoffers hblocks hreached hbody hanswer =>
    cases form with
    | tuple => cases hanswer
    | list =>
      cases hanswer
      exact ⟨rfl, route, s, rfl⟩

/-- An editor hands out its blocks exactly if they keep its rules. -/
theorem build_eq_ok_iff {e : Editor} {p : Program} :
    (e.build : Except (EditFault ι) Program) = .ok p ↔
      p = e.blocks ∧ (e.blocks.check e.rules).issues = [] := by
  unfold build
  cases (e.blocks.check e.rules).issues with
  | nil => simp [eq_comm]
  | cons issue issues => simp

/-- What an editor complains about when it does not hand out its blocks are their issues, as far as
they can be told. -/
theorem eq_told_of_build {f : EditFault ι} (h : e.build = .error f) :
    f = .told (.rejected (e.blocks.check e.rules).issues) := by
  unfold build at h
  cases hissues : (e.blocks.check e.rules).issues with
  | nil =>
    rw [hissues] at h
    cases h
  | cons issue issues =>
    rw [hissues] at h
    cases h
    rfl

/-- An edit is refused and changes nothing, or it does what it is for. -/
theorem perform_cases (e : Editor) (edit : Edit ι) :
    (∃ f, e.perform edit = (.error f, e)) ∨
      ∃ answer blocks, e.perform edit = (answer, { e with blocks := blocks }) ∧
        e.Changes edit answer blocks := by
  -- a top-level block can be removed in two ways
  have hremove (index : ι) :
      (∃ f, e.remove index = (.error f, e)) ∨
        ∃ b blocks, e.remove index = (.ok b, { e with blocks := blocks }) ∧
          ∀ edit, edit = .remove index ∨ edit = .removeChild [index] →
            e.Changes edit (.ok (.block b)) blocks := by
    rcases e.remove_cases index with hrefused | ⟨front, b, back, hblocks, hmeans, hdone⟩
    · exact Or.inl hrefused
    · exact Or.inr ⟨b, front ++ back, hdone, fun edit hedit => .removed hedit hblocks hmeans⟩
  cases edit with
  | add s =>
    rcases e.add_cases (ι := ι) s with ⟨f, hrefused⟩ | ⟨hoffers, hroom, hdone⟩
    · exact Or.inl ⟨f, by rw [perform, hrefused]; rfl⟩
    · exact Or.inr ⟨_, _, by rw [perform, hdone]; rfl, .added hoffers hroom⟩
  | remove index =>
    rcases hremove index with ⟨f, hrefused⟩ | ⟨b, blocks, hdone, hchanges⟩
    · exact Or.inl ⟨f, by rw [perform, hrefused]; rfl⟩
    · exact Or.inr ⟨_, _, by rw [perform, hdone]; rfl, hchanges _ (Or.inl rfl)⟩
  | clear => exact Or.inr ⟨_, _, rfl, .cleared⟩
  | addChild route s form =>
    rcases e.addChild_cases route s form with
      ⟨f, hrefused⟩ | ⟨gap, parent, body, hoffers, hblocks, hreached, hbody, hdone⟩
    · exact Or.inl ⟨f, by rw [perform, hrefused]; rfl⟩
    · exact Or.inr ⟨_, _, by rw [perform, hdone],
        .childAdded hoffers hblocks hreached hbody rfl⟩
  | removeChild route =>
    -- with one index the child is a top-level block, with more it is in a body
    rcases e.removeChild_cases route with ⟨f, hrefused⟩ | ⟨index, rfl, hsame⟩ |
      ⟨gap, parent, above, last, n, front, b, back, rfl, hblocks, hreached, hbody, hn, hmeans⟩
    · exact Or.inl ⟨f, by rw [perform, hrefused]; rfl⟩
    · rcases hremove index with ⟨f, hrefused⟩ | ⟨b, blocks, hdone, hchanges⟩
      · exact Or.inl ⟨f, by rw [perform, hsame, hrefused]; rfl⟩
      · exact Or.inr ⟨_, _, by rw [perform, hsame, hdone]; rfl, hchanges _ (Or.inr rfl)⟩
    · have hdone := removeChild_of_reached hblocks hreached hbody hn hmeans
      exact Or.inr ⟨_, _, by rw [perform, hdone]; rfl,
        .childRemoved hblocks hreached hbody hn hmeans⟩
  | configure route updates =>
    rcases e.configure_cases route updates with
      ⟨f, hrefused⟩ | ⟨gap, b, hblocks, hreached, htakes, hdone⟩
    · exact Or.inl ⟨f, by rw [perform, hrefused]; rfl⟩
    · exact Or.inr ⟨_, _, by rw [perform, hdone]; rfl, .configured hblocks hreached htakes⟩
  | get route =>
    cases hget : e.get route with
    | error f => exact Or.inl ⟨f, by rw [perform, hget]; rfl⟩
    | ok b => exact Or.inr ⟨_, _, by rw [perform, hget]; rfl, .found hget⟩
  | build =>
    cases hbuild : (e.build : Except (EditFault ι) Program) with
    | error f => exact Or.inl ⟨f, by rw [perform, hbuild]; rfl⟩
    | ok p =>
      rcases build_eq_ok_iff.1 hbuild with ⟨rfl, hkept⟩
      exact Or.inr ⟨_, _, by rw [perform, hbuild]; rfl, .built hkept⟩

/-! ## One edit after the other -/

/-- The editor after some edits. -/
def after (e : Editor) : List (Edit ι) → Editor
  | [] => e
  | edit :: edits => (e.perform edit).2.after edits

/-- What holds of an editor, and of every editor that an edit can leave, holds after the edit. -/
theorem perform_keeps {P : Editor → Prop} {edit : Edit ι} (h : P e)
    (hchanges : ∀ answer blocks, e.Changes edit answer blocks → P { e with blocks := blocks }) :
    P (e.perform edit).2 := by
  rcases e.perform_cases edit with ⟨f, hrefused⟩ | ⟨answer, blocks, hdone, hchange⟩
  · rw [hrefused]
    exact h
  · rw [hdone]
    exact hchanges answer blocks hchange

/-- What every edit keeps is kept by any edits. -/
theorem after_induction {P : Editor → Prop}
    (hstep : ∀ (e : Editor) (edit : Edit ι), P e → P (e.perform edit).2) (h : P e)
    (edits : List (Edit ι)) : P (e.after edits) := by
  induction edits generalizing e with
  | nil => exact h
  | cons edit edits ih => exact ih (hstep e edit h)

/-- No edits change the rules. -/
theorem rules_after (e : Editor) (edits : List (Edit ι)) : (e.after edits).rules = e.rules := by
  apply after_induction (P := fun e' => e'.rules = e.rules)
  · intro e' edit h
    exact perform_keeps (P := fun e' => e'.rules = e.rules) h (fun _ _ _ => h)
  · rfl

end Editor

end GridRobot
