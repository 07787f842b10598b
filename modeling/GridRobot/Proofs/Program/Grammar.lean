import GridRobot.Block.Record
import GridRobot.Proofs.Number.Numeral
import Mathlib.Data.List.Forall2

/-!
# The grammar of program records

Which values are records of blocks, said without reading them: a grammar by rules (`Accepted`), and
apart from it the checks that each node of a value has to pass (`Fails`). Checks have an order. A
node is entered, then come its children one after the other, and at last the node is left, when the
setting of its own is looked at. A check has a place in that order (`place`): the turns that lead to
it.

* `ofRecord_ok_iff`: a value can be read exactly if the grammar accepts it;
* `ofRecord_cases`: a value that cannot be read is blamed on the first check that fails;
* `ofRecords_eq_ok_iff`: a list is read item by item.
-/

namespace GridRobot

/-! ## Rules -/

namespace Grammar

/-- The value spells a word: its text, in capitals, is that word. -/
def Spells (v : Value) (word : String) : Prop := Capital.ofText v.display.toString = word

instance (v : Value) (word : String) : Decidable (Spells v word) :=
  inferInstanceAs (Decidable (_ = _))

/-- The value is a record that names a kind under `type`, by something that counts as true. -/
def OfKind (data : Value) (k : Kind) : Prop :=
  ∃ v, data.field? "type" = some v ∧ v.isTruthy ∧ Spells v k.name

/-- The values under `children`; a record without that field has none. -/
def Body (data : Value) (vs : List Value) : Prop :=
  data.field? "children" = none ∧ vs = [] ∨ data.field? "children" = some (.list vs)

/-- The record has the setting that its kind needs. -/
def Settled (data : Value) : Kind → Prop
  | .loop => ∃ n, data.field? "value" = some (.int n)
  | .conditional => ∃ v, ∃ c : Condition, data.field? "condition" = some v ∧ v ≠ .null ∧
      Spells v c.name
  | _ => True

/-- The values that are records of blocks at a depth. -/
inductive Accepted : (depth : Nat) → Value → Prop
  /-- Of a leaf nothing but the kind matters. -/
  | leaf {depth : Nat} {data : Value} {k : Kind} (hdepth : depth ≤ Block.maxDepth)
      (hkind : OfKind data k) (hleaf : k.isContainer = false) : Accepted depth data
  | container {depth : Nat} {data : Value} {k : Kind} {vs : List Value}
      (hdepth : depth ≤ Block.maxDepth) (hkind : OfKind data k) (hholds : k.isContainer = true)
      (hbody : Body data vs) (hchildren : ∀ v ∈ vs, Accepted (depth + 1) v)
      (hsetting : Settled data k) : Accepted depth data

/-! ## Checks -/

/-- A value stands below another one at a path: containers lead to it. -/
inductive Stands : Value → Path → Value → Prop
  | here (data : Value) : Stands data [] data
  | child {data v node : Value} {k : Kind} {vs : List Value} {index : Nat} {path : Path}
      (hkind : OfKind data k) (hholds : k.isContainer = true) (hbody : Body data vs)
      (hchild : vs[index]? = some v) (hnode : Stands v path node) :
      Stands data (index :: path) node

/-- When a node is checked: before its children are looked at, or after them. -/
inductive Stage where
  | entering
  | leaving
deriving DecidableEq, Repr

/-- What is wrong with a node at a depth, apart from its children. A problem on entering hides those
that stand behind it in the list. -/
inductive Fails (depth : Nat) (data : Value) : Stage → RecordProblem → Prop
  | tooDeep (h : Block.maxDepth < depth) : Fails depth data .entering .tooDeep
  | notARecord (hdepth : depth ≤ Block.maxDepth) (h : ∀ fields, data ≠ .record fields) :
      Fails depth data .entering (.notARecord data)
  | missingKind {fields : List (Text × Value)} (hdepth : depth ≤ Block.maxDepth)
      (hrecord : data = .record fields)
      (h : ∀ v, data.field? "type" = some v → v.isTruthy = false) :
      Fails depth data .entering .missingKind
  | unknownKind {v : Value} (hdepth : depth ≤ Block.maxDepth) (hv : data.field? "type" = some v)
      (htrue : v.isTruthy) (h : ∀ k : Kind, ¬ Spells v k.name) :
      Fails depth data .entering (.unknownKind v)
  | childrenNotAList {k : Kind} {v : Value} (hdepth : depth ≤ Block.maxDepth)
      (hkind : OfKind data k) (hholds : k.isContainer = true)
      (hv : data.field? "children" = some v) (h : ∀ vs, v ≠ .list vs) :
      Fails depth data .entering .childrenNotAList
  | missingCount (hkind : OfKind data .loop) (h : data.field? "value" = none) :
      Fails depth data .leaving .missingCount
  | countNotAnInteger {v : Value} (hkind : OfKind data .loop)
      (hv : data.field? "value" = some v) (h : ∀ n, v ≠ .int n) :
      Fails depth data .leaving (.countNotAnInteger v)
  | missingCondition (hkind : OfKind data .conditional)
      (h : data.field? "condition" = none ∨ data.field? "condition" = some .null) :
      Fails depth data .leaving .missingCondition
  | unknownCondition {v : Value} (hkind : OfKind data .conditional)
      (hv : data.field? "condition" = some v) (hnull : v ≠ .null)
      (h : ∀ c : Condition, ¬ Spells v c.name) :
      Fails depth data .leaving (.unknownCondition v)

/-- The node at a path below a value that stands at a depth fails a check. -/
def FailsAt (depth : Nat) (data : Value) (path : Path) (stage : Stage) (p : RecordProblem) : Prop :=
  ∃ node, Stands data path node ∧ Fails (depth + path.length) node stage p

/-! ## The order of checks -/

/-- Where reading goes from a node: down to a child, or back when all children have been read. -/
inductive Turn where
  | down (index : Nat)
  | back
deriving DecidableEq, Repr

/-- Children come in the order of their indices, and then the way back. -/
def Turn.Sooner : Turn → Turn → Prop
  | .down i, .down j => i < j
  | .down _, .back => True
  | .back, _ => False

/-- The turns that lead to a check. -/
def place (path : Path) : Stage → List Turn
  | .entering => path.map .down
  | .leaving => path.map .down ++ [.back]

/-- A node at or below the value fails a check, and no check that comes sooner fails. -/
def First (depth : Nat) (data : Value) (path : Path) (p : RecordProblem) : Prop :=
  ∃ stage, FailsAt depth data path stage p ∧
    ∀ path' stage' p', FailsAt depth data path' stage' p' →
      ¬ List.Lex Turn.Sooner (place path' stage') (place path stage)

/-! ## One node -/

section Node

variable {data v : Value} {k : Kind} {vs : List Value} {p : RecordProblem}

/-- A kind is recognised exactly by what spells its name. -/
theorem kindNamed?_eq_some_iff : Block.kindNamed? v = some k ↔ Spells v k.name := by
  unfold Block.kindNamed? Kind.ofName? Spells
  constructor
  · intro h
    have hname := List.find?_some (p := fun k : Kind => k.name == _) h
    exact (eq_of_beq hname).symm
  · intro h
    rw [h]
    exact Kind.ofName?_name k

/-- A condition is recognised exactly by what spells its name. -/
theorem conditionNamed?_eq_some_iff {c : Condition} :
    Block.conditionNamed? v = some c ↔ Spells v c.name := by
  unfold Block.conditionNamed? Condition.ofName? Spells
  constructor
  · intro h
    have hname := List.find?_some (p := fun c : Condition => c.name == _) h
    exact (eq_of_beq hname).symm
  · intro h
    rw [h]
    exact Condition.ofName?_name c

theorem ofChar_of_isDigit {c : Char} (h : c.isDigit = true) : Capital.ofChar c = [c] := by
  unfold Capital.ofChar
  split
  · next hsmall =>
    have hdigit : c ≤ '9' := of_decide_eq_true (Bool.and_eq_true_iff.1 h).2
    exact absurd (Char.le_trans hsmall.1 hdigit) (by decide)
  · split
    case h_11 => rfl
    -- none of the letters beyond the Latin ones is a digit
    all_goals exact absurd h (by decide)

/-- No integer spells the name of a kind, for the names have no digits. -/
theorem not_spells_int (n : Int) (k : Kind) : ¬ Spells (.int n) k.name := by
  intro hspells
  obtain ⟨c, hc, hdigit⟩ := Numeral.exists_digit n
  have hmem : c ∈ k.name.toList := by
    rw [← hspells, Capital.ofText, String.toList_ofList]
    refine List.mem_flatMap.2 ⟨c, ?_, ?_⟩
    · simpa [Value.display, Value.quoted, Value.quotedChars] using hc
    · rw [ofChar_of_isDigit hdigit]
      exact List.mem_singleton_self c
  have hnames : k.name.toList.any Char.isDigit = false := by cases k <;> rfl
  rw [List.any_eq_true.2 ⟨c, hmem, hdigit⟩] at hnames
  cases hnames

/-- No integer spells the name of a kind. -/
theorem kindNamed?_int (n : Int) : Block.kindNamed? (.int n) = none := by
  rw [Option.eq_none_iff_forall_ne_some]
  intro k hk
  exact not_spells_int n k (kindNamed?_eq_some_iff.1 hk)

/-- The kind of a record is read as the grammar has it. -/
theorem recordKind_eq_ok_iff : Block.recordKind data = .ok k ↔ OfKind data k := by
  unfold OfKind
  cases data with
  | record fields =>
    rw [Block.recordKind]
    cases hv : (Value.record fields).field? "type" with
    | none => simp [Value.isTruthy]
    | some v =>
      by_cases htrue : v.isTruthy
      · cases hk : Block.kindNamed? v with
        | none => simp [htrue, hk, ← kindNamed?_eq_some_iff]
        | some k' => simp [htrue, hk, ← kindNamed?_eq_some_iff]
      · simp [htrue]
  | _ => simp [Block.recordKind, Value.field?]

/-- A record names one kind at most. -/
theorem OfKind.unique {k' : Kind} (h : OfKind data k) (h' : OfKind data k') : k = k' := by
  rw [← recordKind_eq_ok_iff] at h h'
  rw [h] at h'
  exact Except.ok.inj h'

/-- The children of a record are read as the grammar has them. -/
theorem recordChildren_eq_ok_iff : Block.recordChildren data = .ok vs ↔ Body data vs := by
  unfold Block.recordChildren Body
  cases data.field? "children" with
  | none => simp [eq_comm]
  | some v => cases v <;> simp

theorem Body.unique {vs' : List Value} (h : Body data vs) (h' : Body data vs') : vs = vs' := by
  rw [← recordChildren_eq_ok_iff] at h h'
  rw [h] at h'
  exact Except.ok.inj h'

/-- If no kind can be read, the node fails on entering. -/
theorem fails_of_recordKind {depth : Nat} (hdepth : depth ≤ Block.maxDepth)
    (h : Block.recordKind data = .error p) : Fails depth data .entering p := by
  cases data with
  | record fields =>
    rw [Block.recordKind] at h
    cases hv : (Value.record fields).field? "type" with
    | none =>
      rw [hv] at h
      cases h
      exact .missingKind hdepth rfl (by simp [hv])
    | some v =>
      simp only [hv, Option.getD_some] at h
      -- a kind that is empty or zero counts as missing
      by_cases htrue : v.isTruthy
      · rw [if_pos htrue] at h
        cases hk : Block.kindNamed? v with
        | some k =>
          rw [hk] at h
          cases h
        | none =>
          rw [hk] at h
          cases h
          refine .unknownKind hdepth hv htrue ?_
          intro k hspells
          rw [← kindNamed?_eq_some_iff, hk] at hspells
          cases hspells
      · rw [if_neg htrue] at h
        cases h
        exact .missingKind hdepth rfl (by simpa [hv] using htrue)
  | _ =>
    cases h
    exact .notARecord hdepth nofun

/-- If no children can be read, the node fails on entering. -/
theorem fails_of_recordChildren {depth : Nat} (hdepth : depth ≤ Block.maxDepth)
    (hkind : OfKind data k) (hholds : k.isContainer = true)
    (h : Block.recordChildren data = .error p) : Fails depth data .entering p := by
  unfold Block.recordChildren at h
  split at h
  · cases h
  · cases h
  · next v hnot hv =>
    cases h
    exact .childrenNotAList hdepth hkind hholds hv hnot

/-- A node that has a kind and, if it is a container, a body passes the checks on entering. -/
theorem not_fails_entering {depth : Nat} (hdepth : depth ≤ Block.maxDepth) (hkind : OfKind data k)
    (hbody : k.isContainer = true → ∃ vs, Body data vs) : ¬ Fails depth data .entering p := by
  obtain ⟨v, hv, htrue, hspells⟩ := hkind
  intro h
  cases h with
  | tooDeep h => exact absurd hdepth (Nat.not_le.2 h)
  | notARecord _ h =>
    cases data with
    | record fields => exact h fields rfl
    | _ => cases hv
  | missingKind _ _ h =>
    rw [h v hv] at htrue
    cases htrue
  | unknownKind _ hv' _ h =>
    rw [hv] at hv'
    cases hv'
    exact h k hspells
  | childrenNotAList _ hkind' hholds hv' h =>
    cases OfKind.unique ⟨v, hv, htrue, hspells⟩ hkind'
    obtain ⟨vs, ⟨hnone, -⟩ | hlist⟩ := hbody hholds
    · rw [hnone] at hv'
      cases hv'
    · rw [hlist] at hv'
      cases hv'
      exact h vs rfl

/-- A container whose body is read fails exactly if it lacks its setting. -/
theorem container_cases (depth : Nat) (hkind : OfKind data k) (body : List Block) :
    (∃ b, Block.container k data body = .ok b ∧ Settled data k) ∨
      ∃ p, Block.container k data body = .error p ∧ Fails depth data .leaving p := by
  cases k with
  | loop =>
    unfold Block.container Settled
    cases hv : data.field? "value" with
    | none => exact Or.inr ⟨_, rfl, .missingCount hkind hv⟩
    | some v =>
      cases v with
      | int n => exact Or.inl ⟨_, rfl, n, rfl⟩
      | _ => exact Or.inr ⟨_, rfl, .countNotAnInteger hkind hv nofun⟩
  | conditional =>
    unfold Block.container Settled
    cases hv : data.field? "condition" with
    | none => exact Or.inr ⟨_, rfl, .missingCondition hkind (Or.inl hv)⟩
    | some v =>
      -- a condition that is null counts as missing
      by_cases hnull : v = .null
      · rw [hnull] at hv ⊢
        exact Or.inr ⟨_, rfl, .missingCondition hkind (Or.inr hv)⟩
      · cases hc : Block.conditionNamed? v with
        | some c =>
          refine Or.inl ⟨.conditional (.known c) body, ?_, v, c, rfl, hnull,
            conditionNamed?_eq_some_iff.1 hc⟩
          cases v with
          | null => exact absurd rfl hnull
          | _ => simp [hc]
        | none =>
          refine Or.inr ⟨.unknownCondition v, ?_, .unknownCondition hkind hv hnull ?_⟩
          · cases v with
            | null => exact absurd rfl hnull
            | _ => simp [hc]
          · intro c hspells
            rw [← conditionNamed?_eq_some_iff, hc] at hspells
            cases hspells
  | _ => exact Or.inl ⟨_, rfl, trivial⟩

/-- A node that is well settled does not fail on leaving. -/
theorem not_fails_leaving {depth : Nat} (hkind : OfKind data k) (hsetting : Settled data k) :
    ¬ Fails depth data .leaving p := by
  intro h
  -- each check on leaving belongs to one kind, whose setting is right
  cases h with
  | missingCount hkind' h =>
    cases hkind.unique hkind'
    obtain ⟨n, hn⟩ := hsetting
    rw [h] at hn
    cases hn
  | countNotAnInteger hkind' hv h =>
    cases hkind.unique hkind'
    obtain ⟨n, hn⟩ := hsetting
    rw [hv] at hn
    exact h n (Option.some.inj hn)
  | missingCondition hkind' h =>
    cases hkind.unique hkind'
    obtain ⟨v, c, hv, hnull, -⟩ := hsetting
    rcases h with hnone | hsome
    · rw [hv] at hnone
      cases hnone
    · rw [hv] at hsome
      exact hnull (Option.some.inj hsome)
  | unknownCondition hkind' hv _ h =>
    cases hkind.unique hkind'
    obtain ⟨v, c, hv', -, hspells⟩ := hsetting
    rw [hv] at hv'
    cases hv'
    exact h c hspells

end Node

/-! ## The tree -/

section Tree

variable {depth : Nat} {data v : Value} {k : Kind} {vs : List Value} {index : Nat} {path : Path}
  {stage : Stage} {p : RecordProblem}

/-- What fails in a child fails in the record, one index further up. -/
theorem FailsAt.child (hkind : OfKind data k) (hholds : k.isContainer = true) (hbody : Body data vs)
    (hchild : vs[index]? = some v) (h : FailsAt (depth + 1) v path stage p) :
    FailsAt depth data (index :: path) stage p := by
  obtain ⟨node, hnode, hfails⟩ := h
  refine ⟨node, .child hkind hholds hbody hchild hnode, ?_⟩
  rwa [List.length_cons, Nat.add_comm path.length, ← Nat.add_assoc]

/-- A check that fails is one of the node itself, or one of a child or of what is below it. -/
theorem FailsAt.cases (h : FailsAt depth data path stage p) (hbody : Body data vs) :
    path = [] ∧ Fails depth data stage p ∨
      ∃ index v path', path = index :: path' ∧ vs[index]? = some v ∧
        FailsAt (depth + 1) v path' stage p := by
  obtain ⟨node, hnode, hfails⟩ := h
  cases hnode with
  | here => exact Or.inl ⟨rfl, hfails⟩
  | child _ _ hbody' hchild hnode =>
    rw [hbody'.unique hbody] at hchild
    rw [List.length_cons, Nat.add_comm _ 1, ← Nat.add_assoc] at hfails
    exact Or.inr ⟨_, _, _, rfl, hchild, node, hnode, hfails⟩

/-- A value that the grammar accepts passes all checks. -/
theorem Accepted.not_failsAt (h : Accepted depth data) : ¬ FailsAt depth data path stage p := by
  induction h generalizing path with
  | @leaf depth data k hdepth hkind hleaf =>
    rintro ⟨node, hnode, hfails⟩
    cases hnode with
    | here =>
      have hsetting : Settled data k := by
        cases k <;> trivial
      cases stage with
      | entering => exact not_fails_entering hdepth hkind (fun h => by simp [hleaf] at h) hfails
      | leaving => exact not_fails_leaving hkind hsetting hfails
    | child hkind' hholds =>
      rw [hkind.unique hkind', hholds] at hleaf
      cases hleaf
  | container hdepth hkind _ hbody _ hsetting ih =>
    intro h
    rcases h.cases hbody with ⟨-, hfails⟩ | ⟨index, v, path', -, hv, hfails⟩
    · cases stage with
      | entering => exact not_fails_entering hdepth hkind (fun _ => ⟨_, hbody⟩) hfails
      | leaving => exact not_fails_leaving hkind hsetting hfails
    · exact ih v (List.mem_of_getElem? hv) hfails

/-! ## Where the first check fails -/

theorem place_cons (index : Nat) (path : Path) (stage : Stage) :
    place (index :: path) stage = .down index :: place path stage := by
  cases stage <;> rfl

/-- Nothing comes sooner than entering the node where reading begins. -/
theorem first_entering (h : Fails depth data .entering p) : First depth data [] p :=
  ⟨.entering, ⟨data, .here data, h⟩, fun _ _ _ _ => List.not_lex_nil⟩

/-- A child comes after its elder siblings, and before the way back. -/
theorem First.child (hdepth : depth ≤ Block.maxDepth) (hkind : OfKind data k)
    (hholds : k.isContainer = true) (hbody : Body data vs) (hchild : vs[index]? = some v)
    (hbefore : ∀ i < index, ∀ w, vs[i]? = some w → Accepted (depth + 1) w)
    (h : First (depth + 1) v path p) : First depth data (index :: path) p := by
  obtain ⟨stage, hfails, hfirst⟩ := h
  refine ⟨stage, hfails.child hkind hholds hbody hchild, ?_⟩
  rw [place_cons]
  intro path' stage' p' hfails' hsooner
  rcases hfails'.cases hbody with ⟨rfl, hself⟩ | ⟨index', w, rest, rfl, hw, hbelow⟩
  · cases stage' with
    | entering => exact not_fails_entering hdepth hkind (fun _ => ⟨vs, hbody⟩) hself
    | leaving =>
      cases hsooner with
      | rel hturn => exact hturn
  · rw [place_cons] at hsooner
    cases hsooner with
    | rel hturn => exact (hbefore index' hturn w hw).not_failsAt hbelow
    | cons hrest =>
      rw [hchild] at hw
      cases hw
      exact hfirst rest stage' p' hbelow hrest

/-- The way back comes after all children. -/
theorem first_leaving (hdepth : depth ≤ Block.maxDepth) (hkind : OfKind data k)
    (hbody : Body data vs) (hchildren : ∀ v ∈ vs, Accepted (depth + 1) v)
    (h : Fails depth data .leaving p) : First depth data [] p := by
  refine ⟨.leaving, ⟨data, .here data, h⟩, ?_⟩
  intro path' stage' p' hfails' hsooner
  rcases hfails'.cases hbody with ⟨rfl, hself⟩ | ⟨index', w, rest, rfl, hw, hbelow⟩
  · cases stage' with
    | entering => exact not_fails_entering hdepth hkind (fun _ => ⟨vs, hbody⟩) hself
    | leaving =>
      cases hsooner with
      | rel hturn => exact hturn
      | cons hrest => cases hrest
  · exact (hchildren w (List.mem_of_getElem? hw)).not_failsAt hbelow

end Tree

end Grammar

/-! ## Reading -/

namespace Block

open Grammar

/-- Lists that are related item by item have a partner for every item of the first one. -/
theorem exists_right_of_forall₂ {α β : Type} {R : α → β → Prop} {xs : List α} {ys : List β}
    (h : List.Forall₂ R xs ys) {i : Nat} {x : α} (hx : xs[i]? = some x) :
    ∃ y, ys[i]? = some y ∧ R x y := by
  induction h generalizing i with
  | nil => cases hx
  | cons hxy _ ih =>
    cases i with
    | zero =>
      cases hx
      exact ⟨_, rfl, hxy⟩
    | succ i => exact ih hx

theorem exists_left_of_forall₂ {α β : Type} {R : α → β → Prop} {xs : List α} {ys : List β}
    (h : List.Forall₂ R xs ys) {i : Nat} {y : β} (hy : ys[i]? = some y) :
    ∃ x, xs[i]? = some x ∧ R x y :=
  exists_right_of_forall₂ (List.Forall₂.flip h) hy

/-- Reading items gives all their blocks, or stops at the first one that cannot be read. -/
theorem readItems_cases (read : Value → Except RecordError Block) (index : Nat) (vs : List Value) :
    (∃ bs, readItems read index vs = .ok bs ∧ List.Forall₂ (fun v b => read v = .ok b) vs bs) ∨
      ∃ i v e, vs[i]? = some v ∧ read v = .error e ∧
        readItems read index vs = .error ⟨(index + i) :: e.path, e.problem⟩ ∧
        ∀ j < i, ∀ w, vs[j]? = some w → ∃ b, read w = .ok b := by
  induction vs generalizing index with
  | nil => exact Or.inl ⟨[], rfl, .nil⟩
  | cons v vs ih =>
    rw [readItems]
    cases hv : read v with
    | error e =>
      refine Or.inr ⟨0, v, e, rfl, hv, rfl, ?_⟩
      intro j hj
      exact absurd hj (Nat.not_lt_zero j)
    | ok b =>
      dsimp only
      rcases ih (index + 1) with ⟨bs, hread, hbs⟩ | ⟨i, w, e, hw, he, hread, hbefore⟩
      · exact Or.inl ⟨b :: bs, by rw [hread]; rfl, .cons hv hbs⟩
      · refine Or.inr ⟨i + 1, w, e, hw, he, ?_, ?_⟩
        · rw [hread, Nat.add_right_comm]
          rfl
        · intro j hj u hu
          cases j with
          | zero =>
            cases hu
            exact ⟨b, hv⟩
          | succ j => exact hbefore j (Nat.lt_of_succ_lt_succ hj) u hu

/-- Items that can all be read are read one by one. -/
theorem readItems_of_forall₂ {read : Value → Except RecordError Block} {vs : List Value}
    {bs : List Block} (h : List.Forall₂ (fun v b => read v = .ok b) vs bs) (index : Nat) :
    readItems read index vs = .ok bs := by
  induction h generalizing index with
  | nil => rfl
  | cons hv _ ih =>
    rw [readItems, hv]
    dsimp only
    rw [ih]
    rfl

/-- What can come of reading a value, with room for so many levels below it. -/
inductive Reading (room : Nat) (data : Value) : Except RecordError Block → Prop
  | noKind {p : RecordProblem} (h : recordKind data = .error p) : Reading room data (.error ⟨[], p⟩)
  | leaf {k : Kind} (hkind : OfKind data k) (hleaf : k.isContainer = false) :
      Reading room data (.ok (ofKind k))
  | noBody {k : Kind} {p : RecordProblem} (hkind : OfKind data k) (hholds : k.isContainer = true)
      (h : recordChildren data = .error p) : Reading room data (.error ⟨[], p⟩)
  | child {k : Kind} {vs : List Value} {i : Nat} {v : Value} {e : RecordError}
      (hkind : OfKind data k) (hholds : k.isContainer = true) (hbody : Body data vs)
      (hchild : vs[i]? = some v) (herror : ofRecord room v = .error e)
      (hbefore : ∀ j < i, ∀ w, vs[j]? = some w → ∃ b, ofRecord room w = .ok b) :
      Reading room data (.error ⟨i :: e.path, e.problem⟩)
  | noSetting {k : Kind} {vs : List Value} {body : List Block} {p : RecordProblem}
      (hkind : OfKind data k) (hholds : k.isContainer = true) (hbody : Body data vs)
      (hread : List.Forall₂ (fun v c => ofRecord room v = .ok c) vs body)
      (h : container k data body = .error p) : Reading room data (.error ⟨[], p⟩)
  | container {k : Kind} {vs : List Value} {body : List Block} {b : Block}
      (hkind : OfKind data k) (hholds : k.isContainer = true) (hbody : Body data vs)
      (hread : List.Forall₂ (fun v c => ofRecord room v = .ok c) vs body)
      (h : container k data body = .ok b) : Reading room data (.ok b)

/-- The reader follows the grammar, whatever room there is. -/
theorem reading_ofRecord (room : Nat) (data : Value) :
    Reading room data (ofRecord (room + 1) data) := by
  rw [ofRecord]
  cases hkind : recordKind data with
  | error p => exact .noKind hkind
  | ok k =>
    rw [recordKind_eq_ok_iff] at hkind
    dsimp only
    by_cases hholds : k.isContainer = true
    · -- a container: its children are read before its own setting
      rw [if_pos hholds]
      cases hbody : recordChildren data with
      | error p => exact .noBody hkind hholds hbody
      | ok vs =>
        rw [recordChildren_eq_ok_iff] at hbody
        dsimp only
        rcases readItems_cases (ofRecord room) 0 vs with
          ⟨body, hread, hall⟩ | ⟨i, v, e, hv, he, hread, hbefore⟩
        · rw [hread]
          dsimp only
          cases hcontainer : Block.container k data body with
          | error p => exact .noSetting hkind hholds hbody hall hcontainer
          | ok b => exact .container hkind hholds hbody hall hcontainer
        · rw [hread, Nat.zero_add]
          exact .child hkind hholds hbody hv he hbefore
    · rw [if_neg hholds]
      exact .leaf hkind (by simpa using hholds)

/-- How a block is read: a leaf from its kind, a container from its kind, its body and its setting.
-/
theorem ofRecord_succ_eq_ok_iff {room : Nat} {data : Value} {b : Block} :
    ofRecord (room + 1) data = .ok b ↔ ∃ k, OfKind data k ∧
      (k.isContainer = false ∧ b = ofKind k ∨
        k.isContainer = true ∧ ∃ vs body, Body data vs ∧
          List.Forall₂ (fun v c => ofRecord room v = .ok c) vs body ∧
          container k data body = .ok b) := by
  constructor
  · intro h
    have hreading := reading_ofRecord room data
    rw [h] at hreading
    cases hreading with
    | leaf hkind hleaf => exact ⟨_, hkind, Or.inl ⟨hleaf, rfl⟩⟩
    | container hkind hholds hbody hread hcontainer =>
      exact ⟨_, hkind, Or.inr ⟨hholds, _, _, hbody, hread, hcontainer⟩⟩
  · rintro ⟨k, hkind, ⟨hleaf, rfl⟩ | ⟨hholds, vs, body, hbody, hread, hcontainer⟩⟩
    · rw [ofRecord, recordKind_eq_ok_iff.2 hkind]
      simp [hleaf]
    · rw [ofRecord, recordKind_eq_ok_iff.2 hkind]
      dsimp only
      rw [if_pos hholds, recordChildren_eq_ok_iff.2 hbody]
      dsimp only
      rw [readItems_of_forall₂ hread]
      dsimp only
      rw [hcontainer]
      rfl

/-- What is made of a container's record and its body. -/
theorem container_eq_ok {k : Kind} {data : Value} {body : List Block} {b : Block}
    (hholds : k.isContainer = true) (h : container k data body = .ok b) :
    (∃ n, k = .loop ∧ data.field? "value" = some (.int n) ∧ b = .loop (.int n) body) ∨
      (∃ c, k = .conditional ∧ b = .conditional (.known c) body) ∨
      k = .function ∧ b = .function (functionName data) body := by
  cases k with
  | loop =>
    rw [container] at h
    split at h
    · cases h
    · next n hn =>
      cases h
      exact Or.inl ⟨n, rfl, hn, rfl⟩
    · cases h
  | conditional =>
    rw [container] at h
    split at h
    · cases h
    · cases h
    · split at h
      · cases h
        exact Or.inr (Or.inl ⟨_, rfl, rfl⟩)
      · cases h
  | function =>
    cases h
    exact Or.inr (Or.inr ⟨rfl, rfl⟩)
  | _ => cases hholds

/-- A value is read if the grammar accepts it, and else blamed on the first check that fails. -/
theorem ofRecord_cases {room depth : Nat} (hroom : room + depth = maxDepth + 1) (data : Value) :
    (∃ b, ofRecord room data = .ok b ∧ Accepted depth data) ∨
      ∃ e, ofRecord room data = .error e ∧ First depth data e.path e.problem := by
  induction room generalizing depth data with
  | zero => exact Or.inr ⟨_, rfl, first_entering (.tooDeep (by omega))⟩
  | succ room ih =>
    have hdepth : depth ≤ maxDepth := by omega
    -- what is below has one level of room less, and stands one level deeper
    have hbelow (v : Value) := ih (by omega : room + (depth + 1) = maxDepth + 1) v
    have haccepted {v : Value} {b : Block} (hb : ofRecord room v = .ok b) :
        Accepted (depth + 1) v := by
      rcases hbelow v with ⟨-, -, hv⟩ | ⟨e, he, -⟩
      · exact hv
      · rw [hb] at he
        cases he
    have hall {vs : List Value} {body : List Block}
        (hread : List.Forall₂ (fun v c => ofRecord room v = .ok c) vs body) :
        ∀ v ∈ vs, Accepted (depth + 1) v := by
      intro v hv
      obtain ⟨i, hi⟩ := List.mem_iff_getElem?.1 hv
      obtain ⟨b, -, hb⟩ := exists_right_of_forall₂ hread hi
      exact haccepted hb
    -- the cases are those of the reader; each error is traced to the check that it stands for
    have hreading := reading_ofRecord room data
    generalize ofRecord (room + 1) data = result at hreading ⊢
    cases hreading with
    | noKind h => exact Or.inr ⟨_, rfl, first_entering (fails_of_recordKind hdepth h)⟩
    | leaf hkind hleaf => exact Or.inl ⟨_, rfl, .leaf hdepth hkind hleaf⟩
    | noBody hkind hholds h =>
      exact Or.inr ⟨_, rfl, first_entering (fails_of_recordChildren hdepth hkind hholds h)⟩
    | @child k vs i v e hkind hholds hbody hchild herror hbefore =>
      refine Or.inr ⟨_, rfl, ?_⟩
      rcases hbelow v with ⟨b, hb, -⟩ | ⟨e', he', hfirst⟩
      · rw [herror] at hb
        cases hb
      · rw [herror] at he'
        cases he'
        refine hfirst.child hdepth hkind hholds hbody hchild ?_
        intro j hj w hw
        obtain ⟨b, hb⟩ := hbefore j hj w hw
        exact haccepted hb
    | @noSetting k vs body p hkind hholds hbody hread h =>
      refine Or.inr ⟨_, rfl, first_leaving hdepth hkind hbody (hall hread) ?_⟩
      rcases container_cases depth hkind body with ⟨b, hb, -⟩ | ⟨p', hp', hfails⟩
      · rw [h] at hb
        cases hb
      · rw [h] at hp'
        cases hp'
        exact hfails
    | @container k vs body b hkind hholds hbody hread h =>
      refine Or.inl ⟨b, rfl, .container hdepth hkind hholds hbody (hall hread) ?_⟩
      rcases container_cases depth hkind body with ⟨-, -, hsetting⟩ | ⟨p, hp, -⟩
      · exact hsetting
      · rw [h] at hp
        cases hp

variable {room depth : Nat} {data : Value}

/-- A value can be read exactly if the grammar accepts it. -/
theorem ofRecord_ok_iff (hroom : room + depth = maxDepth + 1) :
    (∃ b, ofRecord room data = .ok b) ↔ Accepted depth data := by
  rcases ofRecord_cases hroom data with ⟨b, hb, haccepted⟩ | ⟨e, he, stage, hfails, -⟩
  · exact ⟨fun _ => haccepted, fun _ => ⟨b, hb⟩⟩
  · constructor
    · rintro ⟨b, hb⟩
      rw [he] at hb
      cases hb
    · intro haccepted
      exact absurd hfails haccepted.not_failsAt

end Block

instance : DecidablePred (Grammar.Accepted 1) := fun v =>
  decidable_of_iff ((Block.ofRecord Block.maxDepth v).isOk = true) (by
    rw [← Block.ofRecord_ok_iff rfl]
    cases Block.ofRecord Block.maxDepth v <;> simp [Except.isOk, Except.toBool])

namespace Program

open Grammar

/-! ## Whole programs -/

/-- The items that the grammar does not accept, with their indices from a first one on. -/
def rejectedFrom (index : Nat) (vs : List Value) : List (Value × Nat) :=
  (vs.zipIdx index).filter (fun item => ¬ Accepted 1 item.1)

/-- The items of a list that the grammar does not accept, with their indices. -/
def rejected (vs : List Value) : List (Value × Nat) := rejectedFrom 0 vs

/-- Every item that is not accepted is blamed on the first of its checks that fails. -/
theorem readEach_errors (index : Nat) (vs : List Value) :
    List.Forall₂ (fun item e => ∃ path, e.path = item.2 :: path ∧ First 1 item.1 path e.problem)
      (rejectedFrom index vs) (readEach index vs).2 := by
  induction vs generalizing index with
  | nil => exact .nil
  | cons v vs ih =>
    have hrest := ih (index + 1)
    rw [rejectedFrom] at hrest ⊢
    rw [List.zipIdx_cons, List.filter_cons, readEach]
    rcases Block.ofRecord_cases (rfl : _ + 1 = _) v with ⟨b, hb, hv⟩ | ⟨e, he, hfirst⟩
    · rw [hb, if_neg (by simpa using hv)]
      exact hrest
    · have hv : ¬ Accepted 1 v := by
        rw [← Block.ofRecord_ok_iff rfl, he]
        rintro ⟨b, hb⟩
        cases hb
      rw [he, if_pos (by simpa using hv)]
      exact .cons ⟨e.path, rfl, hfirst⟩ hrest

/-- There are no errors exactly if every item can be read. -/
theorem readEach_eq_iff {index : Nat} {vs : List Value} {bs : List Block} :
    readEach index vs = (bs, []) ↔
      List.Forall₂ (fun v b => Block.ofRecord Block.maxDepth v = .ok b) vs bs := by
  induction vs generalizing index bs with
  | nil => simp [readEach, eq_comm]
  | cons v vs ih =>
    rw [readEach]
    cases hv : Block.ofRecord Block.maxDepth v with
    | error e => cases bs <;> simp [hv]
    | ok b =>
      cases bs with
      | nil => simp
      | cons c bs =>
        rw [List.forall₂_cons, ← @ih (index + 1), hv]
        simp [Prod.ext_iff, and_assoc]

/-- A program is read from a list, every block from its item. -/
theorem ofRecords_eq_ok_iff {data : Value} {p : Program} :
    ofRecords data = .ok p ↔ ∃ vs, data = .list vs ∧
      List.Forall₂ (fun v b => Block.ofRecord Block.maxDepth v = .ok b) vs p := by
  cases data with
  | list vs =>
    have hread : ofRecords (.list vs) = .ok p ↔ readEach 0 vs = (p, []) := by
      rw [ofRecords]
      rcases readEach 0 vs with ⟨bs, - | ⟨e, errors⟩⟩ <;> simp
    rw [hread, readEach_eq_iff]
    simp
  | _ => simp [ofRecords]

/-- A program can be read exactly if the grammar accepts every item of a list. -/
theorem ofRecords_ok_iff {data : Value} :
    (∃ p, ofRecords data = .ok p) ↔ ∃ vs, data = .list vs ∧ ∀ v ∈ vs, Accepted 1 v := by
  simp only [ofRecords_eq_ok_iff]
  constructor
  · rintro ⟨p, vs, rfl, hp⟩
    have hboth := hp.imp (fun v b hb => And.intro ((Block.ofRecord_ok_iff rfl).1 ⟨b, hb⟩) hb)
    exact ⟨vs, rfl, ((List.forall₂_and_left _ _).1 hboth).1⟩
  · rintro ⟨vs, rfl, hvs⟩
    induction vs with
    | nil => exact ⟨[], [], rfl, .nil⟩
    | cons v vs ih =>
      obtain ⟨b, hb⟩ := (Block.ofRecord_ok_iff rfl).2 (hvs v List.mem_cons_self)
      obtain ⟨p, vs', hvs', hp⟩ := ih (fun w hw => hvs w (List.mem_cons_of_mem _ hw))
      cases hvs'
      exact ⟨b :: p, v :: vs, rfl, .cons hb hp⟩

/-- The indices after the first one stand behind slashes. -/
theorem text_cons (index : Nat) (path : Path) :
    Path.text (index :: path) =
      toString index ++ String.join (path.map (fun i => "/" ++ toString i)) := by
  unfold Path.text
  induction path generalizing index with
  | nil => simp
  | cons next path ih =>
    have hrest := ih next
    rw [List.map_cons] at hrest ⊢
    rw [List.map_cons, String.intercalate_cons_cons, hrest, List.map_cons, String.join_cons]
    simp only [String.append_assoc]

/-- What is told about the item at an index: the path of a node, counted from the item on, and its
problem. A problem that holds an integer too long to be written is told without either. -/
def complaint (index : Nat) (path : Path) (problem : RecordProblem) : String :=
  if problem.isWritable then "Block " ++ Path.text (index :: path) ++ ": " ++ problem.message
  else Numeral.tooLong

/-- There is one message for each item, about a node of it. -/
theorem messages_badBlocks {errors : List RecordError} {items : List (Value × Nat)}
    {Blames : Value → Path → RecordProblem → Prop}
    (h : List.Forall₂ (fun item e => ∃ path, e.path = item.2 :: path ∧
      Blames item.1 path e.problem) items errors) :
    List.Forall₂
      (fun item message => ∃ path problem, Blames item.1 path problem ∧
        message = complaint item.2 path problem)
      items (ProgramError.badBlocks errors).messages := by
  rw [ProgramError.messages, List.forall₂_map_right_iff]
  refine h.imp ?_
  rintro ⟨v, index⟩ ⟨-, problem⟩ ⟨path, rfl, hblames⟩
  refine ⟨path, problem, hblames, ?_⟩
  have hplace := text_cons index path
  rw [complaint]
  split
  · simp only [RecordError.detail, hplace, String.append_assoc]
    rfl
  · rfl

/-- A program is read exactly if the grammar accepts every item of a list. If a list cannot be read,
there is one message for each item that is not accepted, in the order of the items, about the node
with the first check that fails. It names the path of that node unless the problem there holds an
integer too long to be written. -/
theorem reading_follows_grammar (data : Value) :
    ((∃ p, ofRecords data = .ok p) ↔ ∃ vs, data = .list vs ∧ ∀ v ∈ vs, Accepted 1 v) ∧
      ∀ vs e, data = .list vs → ofRecords data = .error e →
        List.Forall₂
          (fun item message => ∃ path problem, First 1 item.1 path problem ∧
            message = complaint item.2 path problem)
          (rejected vs) e.messages := by
  refine ⟨ofRecords_ok_iff, ?_⟩
  rintro vs e rfl herror
  have herrors := readEach_errors 0 vs
  rw [ofRecords] at herror
  rcases hread : readEach 0 vs with ⟨bs, - | ⟨first, errors⟩⟩
  · rw [hread] at herror
    cases herror
  · rw [hread] at herror herrors
    cases herror
    exact messages_badBlocks herrors

/-- A leaf with fields that do not matter, a loop whose child is at fault and that lacks a count as
well, and something that is no record. -/
def faultyItems : List Value := [
  .record [("type", .text "wait"), ("children", .int 3)],
  .record [("type", .text "Loop"), ("children", .list [
    .record [("type", .text "UP")], .record [("type", .text "JUMP")]])],
  .int 4]

/-- Two of those items are rejected: the loop for its child, which comes first, and the last one. -/
theorem reading_follows_grammar_faulty_items :
    ∃ e, ofRecords (.list faultyItems) = .error e ∧
      e.messages =
        ["Block 1/1: unknown block type 'JUMP'", "Block 2: expected an object, got int"] ∧
      List.Forall₂
        (fun item message => ∃ path problem, First 1 item.1 path problem ∧
          message = complaint item.2 path problem)
        (rejected faultyItems) e.messages := by
  have herror : ofRecords (.list faultyItems) = .error (.badBlocks
      [⟨[1, 1], .unknownKind (.text "JUMP")⟩, ⟨[2], .notARecord (.int 4)⟩]) := by decide +kernel
  exact ⟨_, herror, by decide +kernel, (reading_follows_grammar _).2 _ _ rfl herror⟩

/-- A record whose kind is given by an integer too long to be written. -/
def unspeakable : Value := .record [("type", .int Numeral.tooBig)]

/-- The one message about a record whose kind is such an integer names no path at all, though the
record is rejected at its first check. -/
theorem message_without_path :
    ∃ e, ofRecords (.list [unspeakable]) = .error e ∧ e.messages = [Numeral.tooLong] ∧
      First 1 unspeakable [] (.unknownKind (.int Numeral.tooBig)) ∧
      ∀ detail : String, Numeral.tooLong ≠ "Block " ++ Path.text [0] ++ detail := by
  have hkind : Block.kindNamed? (.int Numeral.tooBig) = none := kindNamed?_int _
  have htrue : (Value.int Numeral.tooBig).isTruthy = true := by
    simpa [Value.isTruthy] using Numeral.tooBig_pos.ne'
  have hread : Block.ofRecord Block.maxDepth unspeakable =
      .error ⟨[], .unknownKind (.int Numeral.tooBig)⟩ := by
    have hnamed : Block.recordKind unspeakable = .error (.unknownKind (.int Numeral.tooBig)) := by
      simp [Block.recordKind, unspeakable, Value.field?, htrue, hkind]
    rw [Block.maxDepth, Block.ofRecord, hnamed]
  have herror : ofRecords (.list [unspeakable]) =
      .error (.badBlocks [⟨[0], .unknownKind (.int Numeral.tooBig)⟩]) := by
    rw [ofRecords, readEach, hread]
    rfl
  refine ⟨_, herror, ?_, ?_, ?_⟩
  · simp [ProgramError.messages, RecordProblem.isWritable, Value.isWritable]
  · exact first_entering (.unknownKind (by decide) rfl htrue (fun k => not_spells_int _ k))
  · intro detail h
    have hhead : Numeral.tooLong.toList.head? = some 'E' := by decide +kernel
    rw [h, String.append_assoc, String.toList_append, List.head?_append_of_ne_nil _ (by decide)]
      at hhead
    exact absurd hhead (by decide)

end Program

end GridRobot
