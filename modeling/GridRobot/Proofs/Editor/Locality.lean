import GridRobot.Proofs.Editor.Edits

/-!
# Edits stay where they are made

Where a route leads, every index has become a place, so routes are compared by their paths. An edit
puts another block in place of the one at its route. A route whose path neither ends above that
place nor goes through it does not meet the change, and it leads where it led. One that goes through
it depends on the two bodies.

* `Gap.leads_append_iff`: what is below the block in a gap is reached through the gap;
* `Gap.leads_beside`: a route that leads past a gap does not meet what stands there;
* `Block.settings_updates`: updates change the settings that have their keys, and no other ones.
-/

namespace GridRobot

variable {ι : Type} [RouteIndex ι]

/-! ## Where a route leads -/

/-- From some blocks the route leads along a path to a block. At each level the next index of the
route means the next place of the path; it may count from the end. -/
inductive Route.Leads : List Block → Route ι → Path → Block → Prop
  | here {blocks : List Block} {index : ι} {place : Nat} {b : Block}
      (hmeans : Means index blocks.length place) (hb : blocks[place]? = some b) :
    Leads blocks [index] [place] b
  | inside {blocks body : List Block} {index : ι} {place : Nat} {b c : Block} {route : Route ι}
      {path : Path} (hmeans : Means index blocks.length place) (hb : blocks[place]? = some b)
      (hbody : b.body? = some body) (hrest : Leads body route path c) :
    Leads blocks (index :: route) (place :: path) c

/-- The places on the way to a gap. -/
def Gap.path : Gap → Path
  | among front _ => [front.length]
  | within front _ _ _ gap => front.length :: gap.path

namespace Route

variable {blocks front back : List Block} {route : Route ι} {place : Nat} {path : Path}
  {b b' c : Block}

/-- A route leads to a block by its first index and then through the body of the block there. -/
theorem leads_cons_iff : route.Leads blocks (place :: path) c ↔
    ∃ index rest b, route = index :: rest ∧ Means index blocks.length place ∧
      blocks[place]? = some b ∧
      (rest = [] ∧ path = [] ∧ b = c ∨ ∃ body, b.body? = some body ∧ Leads body rest path c) := by
  constructor
  · intro h
    cases h with
    | here hmeans hb => exact ⟨_, _, _, rfl, hmeans, hb, Or.inl ⟨rfl, rfl, rfl⟩⟩
    | inside hmeans hb hbody hrest => exact ⟨_, _, _, rfl, hmeans, hb, Or.inr ⟨_, hbody, hrest⟩⟩
  · rintro ⟨index, rest, b, rfl, hmeans, hb, ⟨rfl, rfl, rfl⟩ | ⟨body, hbody, hrest⟩⟩
    · exact .here hmeans hb
    · exact .inside hmeans hb hbody hrest

/-- An index means one place at most. -/
theorem Means.unique {index : ι} {length place' : Nat} (h : Means index length place)
    (h' : Means index length place') : place = place' := by
  rcases h with ⟨n, hn, -, hlt, hplace⟩
  rcases h' with ⟨n', hn', -, hlt', hplace'⟩
  rw [hn] at hn'
  cases hn'
  omega

/-- A route leads along one path, to one block. -/
theorem Leads.unique {path' : Path} (h : route.Leads blocks path b)
    (h' : route.Leads blocks path' c) : path = path' ∧ b = c := by
  induction h generalizing path' with
  | here hmeans hb =>
    cases h' with
    | here hmeans' hb' =>
      cases hmeans.unique hmeans'
      cases hb.symm.trans hb'
      exact ⟨rfl, rfl⟩
    | inside hmeans' hb' hbody' hrest' => cases hrest'
  | inside hmeans hb hbody hrest ih =>
    cases h' with
    | here hmeans' hb' => cases hrest
    | inside hmeans' hb' hbody' hrest' =>
      cases hmeans.unique hmeans'
      cases hb.symm.trans hb'
      cases hbody.symm.trans hbody'
      rcases ih hrest' with ⟨rfl, rfl⟩
      exact ⟨rfl, rfl⟩

theorem Leads.exists_cons (h : route.Leads blocks path b) :
    ∃ index rest place below, route = index :: rest ∧ path = place :: below := by
  cases h with
  | here => exact ⟨_, _, _, _, rfl, rfl⟩
  | inside => exact ⟨_, _, _, _, rfl, rfl⟩

/-- Where a route leads there is a gap for the block. -/
theorem Leads.exists_gap (h : route.Leads blocks path b) :
    ∃ gap : Gap, blocks = gap.fill b ∧ gap.ReachedBy route := by
  induction h with
  | here hmeans hb =>
    rcases Editor.exists_split hb with ⟨front, back, rfl, rfl⟩
    rw [List.length_append, List.length_cons] at hmeans
    exact ⟨.among front back, rfl, _, rfl, hmeans⟩
  | inside hmeans hb hbody hrest ih =>
    rcases Editor.exists_split hb with ⟨front, back, rfl, rfl⟩
    rcases ih with ⟨gap, rfl, hreached⟩
    rw [List.length_append, List.length_cons] at hmeans
    refine ⟨.within front _ (Option.isSome_of_mem hbody) back gap, ?_, ?_⟩
    · rw [Gap.fill, Block.withBody_of_body? hbody]
    · exact ⟨_, _, rfl, hmeans, hreached⟩

/-- A route to one of the blocks in a list. -/
theorem leads_among_iff : route.Leads (front ++ b :: back) (front.length :: path) c ↔
    ∃ index rest, route = index :: rest ∧
      Means index (front.length + (back.length + 1)) front.length ∧
      (rest = [] ∧ path = [] ∧ b = c ∨ ∃ body, b.body? = some body ∧ Leads body rest path c) := by
  have hlength : (front ++ b :: back).length = front.length + (back.length + 1) := by
    rw [List.length_append, List.length_cons]
  have hself : (front ++ b :: back)[front.length]? = some b := by simp
  rw [leads_cons_iff, hlength, hself]
  constructor
  · rintro ⟨index, rest, _, hroute, hmeans, hb, hrest⟩
    cases hb
    exact ⟨index, rest, hroute, hmeans, hrest⟩
  · rintro ⟨index, rest, hroute, hmeans, hrest⟩
    exact ⟨index, rest, b, hroute, hmeans, rfl, hrest⟩

/-- A route past a block in a list does not meet the block. -/
theorem Leads.among_of_ne (hne : place ≠ front.length)
    (h : route.Leads (front ++ b :: back) (place :: path) c) (b' : Block) :
    route.Leads (front ++ b' :: back) (place :: path) c := by
  have hlength : (front ++ b' :: back).length = (front ++ b :: back).length := by simp
  have hother : (front ++ b' :: back)[place]? = (front ++ b :: back)[place]? := by
    rcases Nat.lt_or_gt_of_ne hne with hlt | hgt
    · rw [List.getElem?_append_left hlt, List.getElem?_append_left hlt]
    · rcases Nat.exists_eq_add_of_lt hgt with ⟨k, rfl⟩
      rw [Nat.add_assoc, List.getElem?_append_right (Nat.le_add_right _ _),
        List.getElem?_append_right (Nat.le_add_right _ _), Nat.add_sub_cancel_left]
      rfl
  rwa [leads_cons_iff, hlength, hother, ← leads_cons_iff]

/-- A route to one of the blocks leads there behind one more block as well, if its first index is
replaced by one that means the same place. -/
theorem Leads.append_last {index index' : ι} {rest : Route ι}
    (hindex : ∀ place, Means index blocks.length place → Means index' (blocks.length + 1) place)
    (h : Leads blocks (index :: rest) path c) (b : Block) :
    Leads (blocks ++ [b]) (index' :: rest) path c := by
  have hlength : (blocks ++ [b]).length = blocks.length + 1 := by simp
  have hkept {place : Nat} {d : Block} (hd : blocks[place]? = some d) :
      (blocks ++ [b])[place]? = some d := by
    rw [List.getElem?_append_left (List.getElem?_eq_some_iff.1 hd).1, hd]
  cases h with
  | here hmeans hb =>
    refine .here ?_ (hkept hb)
    rw [hlength]
    exact hindex _ hmeans
  | inside hmeans hb hbody hrest =>
    refine .inside ?_ (hkept hb) hbody hrest
    rw [hlength]
    exact hindex _ hmeans

/-- An index that counts from the front means the same place in a longer list. -/
theorem Means.succ {n : Int} {length place : Nat} (hn : 0 ≤ n) (h : Means n length place) :
    Means n (length + 1) place := by
  rcases h with ⟨_, hint, hfits, hlt, hplace⟩
  cases hint
  exact ⟨n, rfl, hfits, by omega, by omega⟩

/-- One that counts from the end has to be one less there. -/
theorem Means.pred_succ {n : Int} {length place : Nat} (hn : n < 0) (hfits : Index.fits (n - 1))
    (h : Means n length place) : Means (n - 1) (length + 1) place := by
  rcases h with ⟨_, hint, -, hlt, hplace⟩
  cases hint
  exact ⟨n - 1, rfl, hfits, by omega, by omega⟩

end Route

namespace Gap

open Route

variable {gap : Gap} {route : Route ι} {path : Path} {b c : Block}

theorem path_ne_nil (gap : Gap) : gap.path ≠ [] := by
  cases gap with
  | among => exact List.cons_ne_nil _ _
  | within => exact List.cons_ne_nil _ _

theorem ReachedBy.length_eq (h : gap.ReachedBy route) : route.length = gap.path.length := by
  induction gap generalizing route with
  | among front back =>
    rcases h with ⟨index, rfl, -⟩
    rfl
  | within front holder holds back gap ih =>
    rcases h with ⟨index, rest, rfl, -, hrest⟩
    rw [Gap.path, List.length_cons, List.length_cons, ih hrest]

/-- A route leads through a gap to the block that fills it, or to what is below that block. -/
theorem leads_append_iff : route.Leads (gap.fill b) (gap.path ++ path) c ↔
    ∃ above rest, route = above ++ rest ∧ gap.ReachedBy above ∧
      (rest = [] ∧ path = [] ∧ b = c ∨ ∃ body, b.body? = some body ∧ Leads body rest path c) := by
  induction gap generalizing route with
  | among front back =>
    rw [fill, Gap.path, List.cons_append, List.nil_append, leads_among_iff]
    constructor
    · rintro ⟨index, rest, rfl, hmeans, hrest⟩
      exact ⟨[index], rest, rfl, ⟨index, rfl, hmeans⟩, hrest⟩
    · rintro ⟨_, rest, rfl, ⟨index, rfl, hmeans⟩, hrest⟩
      exact ⟨index, rest, rfl, hmeans, hrest⟩
  | within front holder holds back gap ih =>
    rw [fill, Gap.path, List.cons_append, leads_among_iff, Block.body?_withBody holds]
    constructor
    · rintro ⟨index, more, rfl, hmeans, ⟨-, hpath, -⟩ | ⟨body, hbody, hmore⟩⟩
      · exact absurd (List.append_eq_nil_iff.1 hpath).1 gap.path_ne_nil
      · cases hbody
        rcases ih.1 hmore with ⟨above, rest, rfl, habove, hrest⟩
        exact ⟨index :: above, rest, rfl, ⟨index, above, rfl, hmeans, habove⟩, hrest⟩
    · rintro ⟨_, rest, rfl, ⟨index, above, rfl, hmeans, habove⟩, hrest⟩
      exact ⟨index, above ++ rest, rfl, hmeans,
        Or.inr ⟨_, rfl, ih.2 ⟨above, rest, rfl, habove, hrest⟩⟩⟩

/-- The route that reaches a gap leads to whatever fills it. -/
theorem ReachedBy.leads (h : gap.ReachedBy route) (b : Block) :
    route.Leads (gap.fill b) gap.path b := by
  rw [← List.append_nil gap.path]
  exact leads_append_iff.2 ⟨route, [], (List.append_nil route).symm, h, Or.inl ⟨rfl, rfl, rfl⟩⟩

/-- A route that leads neither to a gap, nor above it, nor through it does not meet what stands in
the gap. -/
theorem leads_beside (h : route.Leads (gap.fill b) path c) (habove : ¬ path <+: gap.path)
    (hbelow : ¬ gap.path <+: path) (b' : Block) : route.Leads (gap.fill b') path c := by
  induction gap generalizing route path with
  | among front back =>
    rcases h.exists_cons with ⟨_, _, place, below, -, rfl⟩
    have hne : place ≠ front.length := by
      rintro rfl
      exact hbelow ⟨below, rfl⟩
    exact h.among_of_ne hne b'
  | within front holder holds back gap ih =>
    rcases h.exists_cons with ⟨_, _, place, below, -, rfl⟩
    by_cases hne : place = front.length
    · -- the route goes on in the body in which the gap is
      subst hne
      rw [Gap.path, List.cons_prefix_cons, and_iff_right rfl] at habove hbelow
      rw [fill, leads_among_iff, Block.body?_withBody holds] at h ⊢
      rcases h with ⟨index, rest, hroute, hmeans, ⟨-, hpath, -⟩ | ⟨body, hbody, hrest⟩⟩
      · rw [hpath] at habove
        exact absurd List.nil_prefix habove
      · cases hbody
        exact ⟨index, rest, hroute, hmeans, Or.inr ⟨_, rfl, ih hrest habove hbelow⟩⟩
    · exact h.among_of_ne hne _

end Gap

namespace Editor

variable {e : Editor} {route : Route ι} {gap : Gap} {path : Path} {b c : Block}

/-- A route leads to the block that is found there. -/
theorem get_eq_ok_iff_leads : e.get route = .ok b ↔ ∃ path, route.Leads e.blocks path b := by
  rw [get_eq_ok_iff]
  constructor
  · rintro ⟨gap, hblocks, hreached⟩
    rw [hblocks]
    exact ⟨gap.path, hreached.leads b⟩
  · rintro ⟨path, hleads⟩
    exact hleads.exists_gap

end Editor

/-! ## Settings -/

/-- The settings of a block, each as the update that would give it its value. -/
def Block.settings : Block → List Update
  | .move direction => [.direction direction]
  | .loop count body => [.count count, .body body]
  | .conditional condition body => [.condition condition, .body body]
  | .function name body => [.name name, .body body]
  | .derived _ b => b.settings
  | .collect | .wait | .breakOut | .foreign _ => []

/-- What an update makes of a setting: it takes the place of the one with its key. -/
def Update.revise (u v : Update) : Update := if u.key = v.key then u else v

namespace Update

variable {u v : Update}

theorem key_revise (u v : Update) : (u.revise v).key = v.key := by
  unfold revise
  split
  · next h => exact h
  · rfl

/-- Revising settings keeps those of other keys. -/
theorem mem_map_revise {settings : List Update} (h : u.key ≠ v.key) :
    v ∈ settings.map u.revise ↔ v ∈ settings := by
  rw [List.mem_map]
  constructor
  · rintro ⟨x, hx, rfl⟩
    rw [key_revise] at h
    rwa [revise, if_neg h]
  · intro hv
    exact ⟨v, hv, if_neg h⟩

end Update

namespace Block

variable {b : Block} {u v : Update}

/-- A block has the settings that it takes. -/
theorem takes_iff : b.takes u = true ↔
    u.key ∈ b.settings.map Update.key ∧ ∀ key, u ≠ .unknown key := by
  induction b using base_induction with
  | derived name b ih =>
    rw [takes]
    exact ih
  | other b hb =>
    cases b with
    | derived => cases hb
    | _ => cases u <;> simp [takes, settings, Update.key, Text.ofString_inj, body?]

/-- An update keeps the class of a block, and takes the place of the setting that has its key. -/
theorem settings_update (h : b.takes u = true) :
    (b.update u).sort = b.sort ∧ (b.update u).settings = b.settings.map u.revise := by
  induction b using base_induction with
  | derived name b ih =>
    -- an update of a derived block is one of its base
    rw [update]
    exact ⟨rfl, (ih h).2⟩
  | other b hb =>
    cases u with
    | direction d =>
      cases b with
      | move => exact ⟨rfl, rfl⟩
      | derived => cases hb
      | _ => cases h
    | condition c =>
      cases b with
      | conditional => exact ⟨rfl, rfl⟩
      | derived => cases hb
      | _ => cases h
    | count n =>
      cases b with
      | loop => exact ⟨rfl, rfl⟩
      | derived => cases hb
      | _ => cases h
    | name n =>
      cases b with
      | function => exact ⟨rfl, rfl⟩
      | derived => cases hb
      | _ => cases h
    | body blocks =>
      cases b with
      | loop | conditional | function => exact ⟨rfl, rfl⟩
      | derived => cases hb
      | _ => cases h
    | unknown key =>
      cases b with
      | derived => cases hb
      | _ => cases h

/-- An update does not change which updates a block takes. -/
theorem takes_update (h : b.takes u = true) : (b.update u).takes v = b.takes v := by
  have hkeys : (b.update u).settings.map Update.key = b.settings.map Update.key := by
    rw [(settings_update h).2, List.map_map]
    exact List.map_congr_left fun w _ => Update.key_revise u w
  rw [Bool.eq_iff_iff, takes_iff, takes_iff, hkeys]

/-- Updates keep the sort of a block and every setting whose key they do not have. Those with keys
of their own are settings of the block then. -/
theorem settings_updates {us : List Update} (htakes : ∀ u ∈ us, b.takes u = true) :
    (us.foldl update b).sort = b.sort ∧
      (∀ v, (∀ u ∈ us, u.key ≠ v.key) → (v ∈ (us.foldl update b).settings ↔ v ∈ b.settings)) ∧
      ((us.map Update.key).Nodup → ∀ u ∈ us, u ∈ (us.foldl update b).settings) := by
  induction us generalizing b with
  | nil => exact ⟨rfl, fun _ _ => Iff.rfl, fun _ u hu => absurd hu List.not_mem_nil⟩
  | cons u us ih =>
    have hu := htakes u List.mem_cons_self
    rcases settings_update hu with ⟨hsort, hsettings⟩
    have htakes' : ∀ v ∈ us, (b.update u).takes v = true := by
      intro v hv
      rw [takes_update hu]
      exact htakes v (List.mem_cons_of_mem u hv)
    rcases ih htakes' with ⟨hsort', hkept, hgiven⟩
    rw [List.foldl_cons]
    refine ⟨hsort'.trans hsort, ?_, ?_⟩
    · intro v hkeys
      rw [hkept v (fun w hw => hkeys w (List.mem_cons_of_mem u hw)), hsettings,
        Update.mem_map_revise (hkeys u List.mem_cons_self)]
    · intro hnodup w hw
      rw [List.map_cons, List.nodup_cons] at hnodup
      rcases List.mem_cons.1 hw with rfl | hw
      · -- the later updates have other keys
        refine (hkept w ?_).2 ?_
        · intro v hv heq
          exact hnodup.1 (heq ▸ List.mem_map_of_mem hv)
        · rcases List.mem_map.1 (takes_iff.1 hu).1 with ⟨v, hv, hkey⟩
          rw [hsettings]
          exact List.mem_map.2 ⟨v, hv, if_pos hkey.symm⟩
      · exact hgiven hnodup.2 w hw

/-- The body of a block is one of its settings. -/
theorem body?_eq_some_iff {body : List Block} : b.body? = some body ↔ .body body ∈ b.settings := by
  induction b using base_induction with
  | derived name b ih => exact ih
  | other b hb =>
    cases b with
    | loop | conditional | function => simp [body?, settings, eq_comm]
    | derived => cases hb
    | _ => simp [body?, settings]

end Block

/-! ## Edits -/

namespace Editor

variable {e e' : Editor} {gap : Gap} {p : Route} {b b' c : Block}

/-- An edit at a route, which leads along a path, spares the rest of the program. What is neither on
the path nor behind it is found where it was. A block on the way has kept its kind, its settings and
its children in order, but for the child to which the route goes on. -/
structure Spares (e e' : Editor) (p : Route) (path : Path) : Prop where
  beside : ∀ (r : Route) (other : Path) (c : Block), r.Leads e.blocks other c →
    ¬ other <+: path → ¬ path <+: other → e'.get r = .ok c
  above : ∀ (above : Route) (index : Int) (rest : Route), p = above ++ index :: rest →
    above ≠ [] → ∃ (holder old new : Block) (front back : List Block),
      e.get above = .ok holder ∧ holder.body? = some (front ++ old :: back) ∧
      Route.Means index (front ++ old :: back).length front.length ∧
      e'.get above = .ok (holder.withBody (front ++ new :: back))

/-- Another block in a gap spares the rest of the program. -/
theorem spares_of_fill (hblocks : e.blocks = gap.fill b) (hblocks' : e'.blocks = gap.fill b')
    (hreached : gap.ReachedBy p) : e.Spares e' p gap.path where
  beside := by
    intro r other c hr habove hbelow
    rw [hblocks] at hr
    refine get_eq_ok_iff_leads.2 ⟨other, ?_⟩
    rw [hblocks']
    exact Gap.leads_beside hr habove hbelow b'
  above := by
    rintro above index rest rfl habove
    rcases hreached.above habove with
      ⟨outer, holder, front, back, inner, hholds, houter, hmeans, hfill, -⟩
    refine ⟨holder.withBody (front ++ inner b :: back), inner b, inner b', front, back,
      ?_, Block.body?_withBody hholds, ?_, ?_⟩
    · exact get_eq_ok_iff.2 ⟨outer, by rw [hblocks, hfill], houter⟩
    · rwa [List.length_append, List.length_cons]
    · rw [Block.withBody_withBody]
      exact get_eq_ok_iff.2 ⟨outer, by rw [hblocks', hfill], houter⟩

/-- What is below the block in a gap is found through the gap. -/
theorem get_through (hblocks : e.blocks = gap.fill b) {above rest : Route} {body : List Block}
    {below : Path} (habove : gap.ReachedBy above) (hbody : b.body? = some body)
    (hrest : rest.Leads body below c) : e.get (above ++ rest) = .ok c := by
  refine get_eq_ok_iff_leads.2 ⟨gap.path ++ below, ?_⟩
  rw [hblocks]
  exact Gap.leads_append_iff.2 ⟨above, rest, rfl, habove, Or.inr ⟨body, hbody, hrest⟩⟩

/-- Edits at a route touch what is there and nothing else.

A child that is added comes behind the other ones, and all of them stay at their places. A route
through the parent leads where it led if it enters the body from the front; an index that counts
from the end has to be one less now. The route to the child can be followed as long as the number of
its place is an index.

Updates are settings of the block afterwards, and its other settings are what they were. If the body
is not among the updates, all that is below the block is found where it was. -/
theorem route_edits_local (e e' : Editor) (p : Route) :
    (∀ (s : Supply) (q : Route), e.addChild p s = (.ok q, e') →
      ∃ (path : Path) (parent : Block) (body : List Block),
        p.Leads e.blocks path parent ∧ parent.body? = some body ∧
        q = p ++ [(body.length : Int)] ∧
        (Index.fits body.length → e'.get q = .ok s.toBlock) ∧
        e'.get p = .ok (parent.withBody (body ++ [s.toBlock])) ∧
        e.Spares e' p path ∧
        ∀ (above : Route) (n : Int) (rest : Route) (other : Path) (c : Block),
          (above ++ n :: rest).Leads e.blocks other c → above.length = path.length →
          path <+: other →
            (0 ≤ n → e'.get (above ++ n :: rest) = .ok c) ∧
            (n < 0 → Index.fits (n - 1) → e'.get (above ++ (n - 1) :: rest) = .ok c)) ∧
    ∀ (updates : List Update) (b' : Block), e.configure p updates = (.ok b', e') →
      ∃ (path : Path) (b : Block), p.Leads e.blocks path b ∧ e'.get p = .ok b' ∧
        b'.sort = b.sort ∧
        (∀ v, (∀ u ∈ updates, u.key ≠ v.key) → (v ∈ b'.settings ↔ v ∈ b.settings)) ∧
        ((updates.map Update.key).Nodup → ∀ u ∈ updates, u ∈ b'.settings) ∧
        e.Spares e' p path ∧
        ((∀ u ∈ updates, u.key ≠ "body") →
          ∀ (r : Route) (other : Path) (c : Block), r.Leads e.blocks other c →
            path <+: other → other ≠ path → e'.get r = .ok c) := by
  constructor
  · intro s q hdone
    rcases e.addChild_cases p s .tuple with
      ⟨f, hrefused⟩ | ⟨gap, parent, body, -, hblocks, hreached, hbody, hcase⟩
    · rw [hrefused] at hdone
      cases hdone
    rw [hcase] at hdone
    cases hdone
    -- the new child is the last one of the body
    have hnew : (parent.withBody (body ++ [s.toBlock])).body? = some (body ++ [s.toBlock]) :=
      Block.body?_withBody (Option.isSome_of_mem hbody)
    refine ⟨gap.path, parent, body, ?_, hbody, rfl, ?_, ?_, ?_, ?_⟩
    · rw [hblocks]
      exact hreached.leads parent
    · intro hfits
      refine get_through rfl hreached hnew (.here ?_ List.getElem?_concat_length)
      exact ⟨body.length, rfl, hfits, by simp, Or.inl rfl⟩
    · exact get_eq_ok_iff.2 ⟨gap, rfl, hreached⟩
    · exact spares_of_fill hblocks rfl hreached
    · rintro above n rest _ c hr hlength ⟨below, rfl⟩
      rw [hblocks] at hr
      -- the route goes through the gap, so its next index picks a child of the old body
      rcases Gap.leads_append_iff.1 hr with ⟨above', rest', hroute, habove, hfound⟩
      rcases List.append_inj hroute (hlength.trans habove.length_eq.symm) with ⟨rfl, rfl⟩
      rcases hfound with ⟨hnil, -⟩ | ⟨body', hbody', hrest⟩
      · cases hnil
      cases hbody.symm.trans hbody'
      constructor
      · intro hn
        exact get_through rfl habove hnew (hrest.append_last (fun place h => h.succ hn) _)
      · intro hn hfits
        -- the body is longer by one, so an index from behind has to be lowered by one
        exact get_through rfl habove hnew
          (hrest.append_last (fun place h => h.pred_succ hn hfits) _)
  · intro updates b' hdone
    rcases e.configure_cases p updates with
      ⟨f, hrefused⟩ | ⟨gap, b, hblocks, hreached, htakes, hcase⟩
    · rw [hrefused] at hdone
      cases hdone
    rw [hcase] at hdone
    cases hdone
    rcases Block.settings_updates (fun u hu => (htakes u hu).2) with ⟨hsort, hkept, hgiven⟩
    refine ⟨gap.path, b, ?_, ?_, hsort, hkept, hgiven, ?_, ?_⟩
    · rw [hblocks]
      exact hreached.leads b
    · exact get_eq_ok_iff.2 ⟨gap, rfl, hreached⟩
    · exact spares_of_fill hblocks rfl hreached
    · rintro hkeys r _ c hr ⟨below, rfl⟩ hne
      rw [hblocks] at hr
      rcases Gap.leads_append_iff.1 hr with ⟨above, rest, rfl, habove, ⟨-, rfl, -⟩ | hfound⟩
      · exact absurd (List.append_nil _) hne
      rcases hfound with ⟨body, hbody, hrest⟩
      refine get_through rfl habove ?_ hrest
      -- the body is one of the settings that are kept
      exact Block.body?_eq_some_iff.2
        ((hkept (.body body) hkeys).2 (Block.body?_eq_some_iff.1 hbody))

/-- A loop in a function, behind another block. -/
def nestedLoop : Editor where
  blocks := [.wait, .function (.text "f") [
    .loop (.int 2) [.move (.known .up), .move (.known .down)], .collect]]

/-- A child is added to that loop by a route that counts from the end, and then the second child is
found by an index that is one less. If the loop gets another count, the second child is found where
it was. -/
theorem route_edits_local_nestedLoop :
    ∃ e₁ e₂ : Editor,
      nestedLoop.get ([1, -2, -1] : Route) = .ok (.move (.known .down)) ∧
      nestedLoop.addChild ([-1, 0] : Route) (.kind .left) = (.ok [-1, 0, 2], e₁) ∧
      e₁.get ([-1, 0, 2] : Route) = .ok (.move (.known .left)) ∧
      e₁.get ([1, -2, -2] : Route) = .ok (.move (.known .down)) ∧
      nestedLoop.configure ([-1, 0] : Route) [.count (.int 4)] =
        (.ok (.loop (.int 4) [.move (.known .up), .move (.known .down)]), e₂) ∧
      e₂.get ([1, -2, -1] : Route) = .ok (.move (.known .down)) := by
  have hloop : Route.Leads nestedLoop.blocks ([-1, 0] : Route) [1, 0]
      (.loop (.int 2) [.move (.known .up), .move (.known .down)]) := by
    refine .inside ⟨-1, rfl, by decide, by decide, Or.inr rfl⟩ rfl rfl (.here ?_ rfl)
    exact ⟨0, rfl, by decide, by decide, Or.inl rfl⟩
  have hchild : Route.Leads nestedLoop.blocks ([1, -2, -1] : Route) [1, 0, 1]
      (.move (.known .down)) := by
    refine .inside ⟨1, rfl, by decide, by decide, Or.inl rfl⟩ rfl rfl
      (.inside ⟨-2, rfl, by decide, by decide, Or.inr rfl⟩ rfl rfl (.here ?_ rfl))
    exact ⟨-1, rfl, by decide, by decide, Or.inr rfl⟩
  rcases (route_edits_local nestedLoop _ [-1, 0]).1 (.kind .left) _ rfl with
    ⟨path, parent, body, hleads, hbody, -, hnew, -, -, hbelow⟩
  rcases hleads.unique hloop with ⟨rfl, rfl⟩
  cases hbody
  rcases (route_edits_local nestedLoop _ [-1, 0]).2 [.count (.int 4)] _ rfl with
    ⟨path, b, hleads', -, -, -, -, -, hbelow'⟩
  rcases hleads'.unique hloop with ⟨rfl, rfl⟩
  refine ⟨_, _, get_eq_ok_iff_leads.2 ⟨_, hchild⟩, rfl, hnew (by decide), ?_, rfl, ?_⟩
  · exact (hbelow [1, -2] (-1) [] _ _ hchild rfl (by decide)).2 (by decide) (by decide)
  · exact hbelow' (by decide) _ _ _ hchild (by decide) (by decide)

/-- The index `-1` leads to the last child, and when another one has been added, to that one. The
route is neither that of the parent nor above it. -/
theorem addChild_moves_last :
    let e : Editor := { blocks := [.loop (.int 2) [.move (.known .up)]] }
    (e.addChild ([0] : Route) (.kind .down)).1 = .ok [0, 1] ∧
      Route.Leads e.blocks ([0, -1] : Route) [0, 0] (.move (.known .up)) ∧
      ¬ ([0, 0] : Path) <+: [0] ∧
      e.get ([0, -1] : Route) = .ok (.move (.known .up)) ∧
      (e.addChild ([0] : Route) (.kind .down)).2.get ([0, -1] : Route) =
        .ok (.move (.known .down)) ∧
      (e.addChild ([0] : Route) (.kind .down)).2.get ([0, -1] : Route) ≠
        e.get ([0, -1] : Route) := by
  intro e
  refine ⟨rfl, ?_, by decide, rfl, rfl, ?_⟩
  · refine .inside ⟨0, rfl, by decide, by decide, Or.inl rfl⟩ rfl rfl (.here ?_ rfl)
    exact ⟨-1, rfl, by decide, by decide, Or.inr rfl⟩
  · intro hsame
    have hblocks : (.ok (.move (.known .down)) : Except EditFault Block) =
      .ok (.move (.known .up)) := hsame
    cases hblocks

end Editor

end GridRobot
