import Easel.Proofs.Command.Language
import Easel.Proofs.Command.Misreading

namespace Easel.Command

-- What brings a program to a halt: a place that a list does not have, a difference below zero, and
-- an assertion that does not hold.
inductive Halt
  | outOfRange (index length : Nat)
  | underflow (minuend subtrahend : Nat)
  | assertion
  deriving DecidableEq

-- Something that may turn arguments down, unless it is brought to a halt before that.
abbrev Guarded (α : Type) :=
  ExceptT ArgumentError (Except Halt) α

theorem exists_numbers {tokens : List Text} (h : ∀ t ∈ tokens, ∃ v, Literal t v) :
    ∃ numbers, List.Forall₂ Literal tokens numbers := by
  induction tokens
  case nil => exact ⟨[], .nil⟩
  case cons token tokens ih =>
    have ⟨⟨v, hv⟩, ht⟩ := List.forall_mem_cons.mp h
    have ⟨numbers, hn⟩ := ih ht
    exact ⟨v :: numbers, .cons hv hn⟩

namespace Guarded

variable {α β : Type}

def lift (e : Except ArgumentError α) : Guarded α :=
  ExceptT.mk (.ok e)

def halt (h : Halt) : Guarded α :=
  ExceptT.mk (.error h)

-- The item at an index. There had better be one.
def item (l : List α) (index : Nat) : Guarded α :=
  match l[index]? with
  | some a => pure a
  | none   => halt (.outOfRange index l.length)

def difference (m n : Nat) : Guarded Nat :=
  if n ≤ m then pure (m - n) else halt (.underflow m n)

def check (p : Prop) [Decidable p] : Guarded Unit :=
  if p then pure () else halt .assertion

-- The parts of a list that have the given size, one behind the other. What is left over at the end
-- is in none of them.
def chunks (size : Nat) (l : List α) : List (List α) :=
  (List.range (l.length / size)).map fun i => (l.drop (i * size)).take size

-- The vertex of a pair of coordinates, which is the one with the given index.
def vertex (pair : List Text × Nat) : Guarded Point := do
  let x ← lift (integer (.x (pair.2 + 1)) (← item pair.1 0))
  let y ← lift (integer (.y (pair.2 + 1)) (← item pair.1 1))
  return { x, y }

def vertices (coordinates : List Text) : Guarded (List Point) :=
  if coordinates.length % 2 ≠ 0 then throw (.danglingCoordinate coordinates.length)
  else (chunks 2 coordinates).zipIdx.mapM vertex

-- Nothing is read as long as the number of arguments is wrong.
def counted (count : Nat) (k : Kind) (f : Fields) (read : Guarded Shape) : Logged (Guarded Shape) :=
  if f.arguments.length = count then ⟨[parsing k], read⟩
  else ⟨[], throw (.arity count f.arguments.length)⟩

def circle (f : Fields) : Logged (Guarded Shape) :=
  counted 3 .circle f do
    let x ← lift (integer .centerX (← item f.arguments 0))
    let y ← lift (integer .centerY (← item f.arguments 1))
    let radius ← lift (integer .radius (← item f.arguments 2))
    return .circle ⟨x, y⟩ radius (← lift f.colorName)

def segment (f : Fields) : Logged (Guarded Shape) :=
  counted 4 .segment f do
    let points ← vertices f.arguments
    return .segment (← item points 0) (← item points 1) (← lift f.colorName)

def triangle (f : Fields) : Logged (Guarded Shape) :=
  counted 6 .triangle f do
    let points ← vertices f.arguments
    return .triangle (← item points 0) (← item points 1) (← item points 2) (← lift f.colorName)

def polygon (f : Fields) : Logged (Guarded Shape) :=
  ⟨[parsing .polygon], do
    let points ← vertices f.arguments
    check (points.length = (← difference f.tokenCount 2) / 2)
    if points.length < 3 then throw (.tooFewVertices points.length)
    return .polygon points (← lift f.colorName)⟩

-- The reading of shapes as a machine does it, which looks up every argument by its index.
def ofKind : Kind → Fields → Logged (Guarded Shape)
  | .circle   => circle
  | .segment  => segment
  | .triangle => triangle
  | .polygon  => polygon

def reader (k : Kind) (f : Fields) : ExceptT Halt Logged (Except ArgumentError Shape) :=
  ExceptT.mk (ofKind k f)

theorem lift_inj {e e' : Except ArgumentError α} : lift e = lift e' ↔ e = e' where
  mp  := Except.ok.inj
  mpr := congrArg lift

theorem lift_bind_lift (e : Except ArgumentError α) (f : α → Except ArgumentError β) :
    (lift e >>= fun a => lift (f a)) = lift (e >>= f) := by
  cases e <;> rfl

theorem pure_eq_lift (a : α) : (pure a : Guarded α) = lift (pure a) :=
  rfl

theorem throw_eq_lift (e : ArgumentError) : (throw e : Guarded α) = lift (.error e) :=
  rfl

theorem length_of_mem_chunks {size : Nat} {l part : List α} (h : part ∈ chunks size l) :
    part.length = size := by
  have ⟨i, hi, hp⟩ := List.mem_map.mp h
  have hl : (i + 1) * size ≤ l.length :=
    (Nat.mul_le_mul_right size (List.mem_range.mp hi)).trans (Nat.div_mul_le_self l.length size)
  rw [Nat.succ_mul] at hl
  rw [← hp, List.length_take, List.length_drop]
  omega

theorem chunks_cons_cons (x y : α) (rest : List α) :
    chunks 2 (x :: y :: rest) = [x, y] :: chunks 2 rest := by
  have hl : (x :: y :: rest).length / 2 = rest.length / 2 + 1 := by
    rw [List.length_cons, List.length_cons]
    omega
  rw [chunks, hl, List.range_succ_eq_map, List.map_cons, List.map_map]
  congr 1
  refine List.map_congr_left fun i _ => ?_
  have hi : (i + 1) * 2 = i * 2 + 1 + 1 := by omega
  simp only [Function.comp, Nat.succ_eq_add_one, hi, List.drop_succ_cons]

theorem vertex_pair (x y : Text) (index : Nat) :
    vertex ([x, y], index) = lift (Command.vertex (index + 1) x y) := by
  have hx : item [x, y] 0 = pure x := rfl
  have hy : item [x, y] 1 = pure y := rfl
  simp only [vertex, hx, hy, pure_bind, pure_eq_lift, lift_bind_lift]
  rfl

-- The induction takes two tokens at a time.
theorem mapM_vertex {tokens : List Text} (h : tokens.length % 2 = 0) (index : Nat) :
    ((chunks 2 tokens).zipIdx index).mapM vertex = lift (verticesFrom (index + 1) tokens) := by
  induction tokens using List.twoStepInduction generalizing index
  case nil => rfl
  case singleton => contradiction
  case cons_cons x y rest ih _ =>
    have hr : rest.length % 2 = 0 := by simpa [Nat.add_assoc] using h
    simp only [chunks_cons_cons, List.zipIdx_cons, List.mapM_cons, vertex_pair, ih hr, pure_eq_lift,
      lift_bind_lift]
    rfl

theorem vertices_of_even {tokens : List Text} (h : tokens.length % 2 = 0) :
    vertices tokens = lift (verticesFrom 1 tokens) := by
  rw [vertices, if_neg (not_not.mpr h)]
  exact mapM_vertex h 0

theorem vertices_of_odd {tokens : List Text} (h : tokens.length % 2 ≠ 0) :
    vertices tokens = lift (.error (.danglingCoordinate tokens.length)) := by
  rw [vertices, if_pos h, throw_eq_lift]

-- The vertices are there if, and only if, all coordinates are integers that come in pairs.
theorem vertices_eq_ok_iff {tokens : List Text} {points : List Point} :
    vertices tokens = lift (.ok points) ↔
      tokens.length % 2 = 0 ∧ List.Forall₂ Literal tokens (points.flatMap Point.coordinates) := by
  by_cases h : tokens.length % 2 = 0
  case pos =>
    rw [vertices_of_even h, lift_inj, verticesFrom_eq_ok_iff h]
    exact (and_iff_right h).symm
  case neg =>
    rw [vertices_of_odd h, lift_inj]
    exact ⟨nofun, fun ⟨he, _⟩ => absurd he h⟩

theorem exists_vertices_iff {tokens : List Text} :
    (∃ points, vertices tokens = lift (.ok points)) ↔
      tokens.length % 2 = 0 ∧ ∀ t ∈ tokens, ∃ v, Literal t v := by
  simp only [vertices_eq_ok_iff]
  constructor
  case mp  => exact fun ⟨_, he, hn⟩ => ⟨he, exists_literal hn⟩
  case mpr =>
    intro ⟨he, h⟩
    have ⟨_, hn⟩ := exists_numbers h
    obtain ⟨vs, rfl⟩ := exists_integers hn
    have hl : vs.length = tokens.length := by rw [hn.length_eq, List.length_map]
    have ⟨points, hp⟩ := exists_vertices vs (hl ▸ he)
    exact ⟨points, he, hp ▸ hn⟩

variable (f : Fields)

theorem two_le_tokenCount : 2 ≤ f.tokenCount :=
  Nat.le_add_left 2 (f.arguments.length + 1)

theorem length_of_vertices {points : List Point} (h : vertices f.arguments = lift (.ok points)) :
    points.length = (f.tokenCount - 2) / 2 := by
  have ⟨_, hn⟩ := vertices_eq_ok_iff.mp h
  have hl : f.arguments.length = 2 * points.length := hn.length_eq.trans (length_coordinates points)
  unfold Fields.tokenCount
  omega

theorem circle_eq : circle f = lift <$> Reading.circle f := by
  unfold circle counted Reading.circle
  split
  case isTrue hl =>
    have ⟨x, y, r, ha⟩ := List.length_eq_three.mp hl
    have hx : item [x, y, r] 0 = pure x := rfl
    have hy : item [x, y, r] 1 = pure y := rfl
    have hr : item [x, y, r] 2 = pure r := rfl
    simp only [ha, hx, hy, hr, pure_bind, pure_eq_lift, lift_bind_lift]
    rfl
  case isFalse hl =>
    split
    case h_1 ha => exact (hl (congrArg List.length ha)).elim
    case h_2    => rfl

theorem segment_eq : segment f = lift <$> Reading.segment f := by
  unfold segment counted Reading.segment
  split
  case isTrue hl =>
    rw [vertices_of_even (by omega)]
    match f.arguments, hl with
    | [x₁, y₁, x₂, y₂], _ =>
      simp only [verticesFrom]
      cases Command.vertex 1 x₁ y₁
      case error  => rfl
      case ok start =>
        cases Command.vertex 2 x₂ y₂
        case error   => rfl
        case ok stop => cases f.colorName <;> rfl
  case isFalse hl =>
    split
    case h_1 ha => exact (hl (congrArg List.length ha)).elim
    case h_2    => rfl

theorem triangle_eq : triangle f = lift <$> Reading.triangle f := by
  unfold triangle counted Reading.triangle
  split
  case isTrue hl =>
    rw [vertices_of_even (by omega)]
    match f.arguments, hl with
    | [x₁, y₁, x₂, y₂, x₃, y₃], _ =>
      simp only [verticesFrom]
      cases Command.vertex 1 x₁ y₁
      case error => rfl
      case ok a  =>
        cases Command.vertex 2 x₂ y₂
        case error => rfl
        case ok b  =>
          cases Command.vertex 3 x₃ y₃
          case error => rfl
          case ok c  => cases f.colorName <;> rfl
  case isFalse hl =>
    split
    case h_1 ha => exact (hl (congrArg List.length ha)).elim
    case h_2    => rfl

theorem polygon_eq : polygon f = lift <$> Reading.polygon f := by
  unfold polygon Reading.polygon
  by_cases he : f.arguments.length % 2 = 0
  case neg =>
    rw [vertices_of_odd he, if_pos he]
    rfl
  case pos =>
    rw [if_neg (not_not.mpr he)]
    cases hv : verticesFrom 1 f.arguments
    case error =>
      rw [vertices_of_even he, hv]
      rfl
    case ok points =>
      have hp : vertices f.arguments = pure points := (vertices_of_even he).trans (congrArg lift hv)
      have hd : difference f.tokenCount 2 = pure (f.tokenCount - 2) := if_pos (two_le_tokenCount f)
      have hc : check (points.length = (f.tokenCount - 2) / 2) = pure () :=
        if_pos (length_of_vertices f hp)
      have ho (g : List Point → Except ArgumentError Shape) :
          (Except.ok points >>= g) = g points := rfl
      simp only [hp, hd, hc, ho, pure_bind]
      split
      case isTrue  => rfl
      case isFalse => cases f.colorName <;> rfl

theorem ofKind_eq (k : Kind) : ofKind k f = lift <$> Reading.ofKind k f := by
  cases k
  case circle   => exact circle_eq f
  case segment  => exact segment_eq f
  case triangle => exact triangle_eq f
  case polygon  => exact polygon_eq f

end Guarded

section

variable {n : Type → Type} [MonadLiftT Logged n]

-- The same interpreter among some whose readers may do more than to write the log.
def Interpreter.lift (i : Interpreter Logged) : Interpreter n :=
  ⟨i.kind, fun f => liftM (i.read f)⟩

def Chain.lift (c : Chain Logged) : Chain n :=
  ⟨c.interpreters.map Interpreter.lift⟩

theorem Chain.find?_lift (c : Chain Logged) (keyword : Text) :
    c.lift.find? keyword = (c.find? keyword).map (Interpreter.lift (n := n)) :=
  List.find?_map ..

variable [Monad n] [LawfulMonad n] [LawfulMonadLiftT Logged n]

-- Where nothing more is done, nothing more comes of it.
theorem Interpreter.interpret_lift (i : Interpreter Logged) (tokens : List Text) :
    i.lift.interpret tokens = (liftM (i.interpret tokens) : n (Except Error Shape)) := by
  unfold interpret
  cases Fields.ofTokens tokens
  case error e => exact (liftM_pure _).symm
  case ok f    => exact (liftM_map _ _).symm

theorem Chain.dispatch_lift (c : Chain Logged) (tokens : List Text) :
    c.lift.dispatch tokens = (liftM (c.dispatch tokens) : n (Except Error Shape)) := by
  unfold dispatch
  cases tokens[1]?
  case none => exact (liftM_pure _).symm
  case some keyword =>
    cases h : c.find? keyword
    case none =>
      simp only [find?_lift, h, Option.map_none]
      exact (liftM_pure _).symm
    case some i =>
      simp only [find?_lift, h, Option.map_some, i.interpret_lift]
      exact (liftM_bind _ _).symm

end

theorem Guarded.interpreter_eq (kind layout : Kind) :
    Interpreter.mk kind (reader layout) = (Interpreter.mk kind (Reading.ofKind layout)).lift :=
  congrArg (Interpreter.mk kind) (funext fun f => congrArg ExceptT.mk (ofKind_eq f layout))

theorem Guarded.chain_eq (pairs : List (Kind × Kind)) :
    Chain.ofPairs reader pairs = (Chain.ofPairs Reading.ofKind pairs).lift := by
  simp only [Chain.ofPairs, Chain.lift, List.map_map, Function.comp_def, interpreter_eq]

-- No command brings a chain to a halt, whatever its interpreters take for arguments and whatever
-- the tokens are. The number of the arguments is known to be right before one is looked up, so that
-- a machine comes to the same as the readers that never look one up. The vertices of a polygon are
-- as many as its tokens make one expect, whenever it comes to count them: if all its coordinates
-- are integers, and come in pairs.
theorem Chain.handle_never_halts :
    (∀ (kind layout : Kind) (tokens : List Text),
      ((Interpreter.mk kind (Guarded.reader layout)).interpret tokens).run =
        .ok <$> (Interpreter.mk kind (Reading.ofKind layout)).interpret tokens) ∧
    (∀ pairs : List (Kind × Kind),
      let machine := Chain.ofPairs Guarded.reader pairs
      let chain   := Chain.ofPairs Reading.ofKind pairs
      (∀ tokens, (machine.dispatch tokens).run = .ok <$> chain.dispatch tokens) ∧
        ∀ line, (machine.handle line).run = .ok <$> chain.handle line) ∧
    ∀ f : Fields,
      2 ≤ f.tokenCount ∧
      (∀ pair ∈ Guarded.chunks 2 f.arguments, pair.length = 2) ∧
      ((∃ points, Guarded.vertices f.arguments = .lift (.ok points)) ↔
        f.arguments.length % 2 = 0 ∧ ∀ t ∈ f.arguments, ∃ v, Literal t v) ∧
      ∀ points, Guarded.vertices f.arguments = .lift (.ok points) →
        points.length = (f.tokenCount - 2) / 2 := by
  have hd (pairs : List (Kind × Kind)) (tokens : List Text) :
      ((Chain.ofPairs Guarded.reader pairs).dispatch tokens).run =
        .ok <$> (Chain.ofPairs Reading.ofKind pairs).dispatch tokens := by
    rw [Guarded.chain_eq, dispatch_lift]
    rfl
  refine ⟨?interpreters, fun pairs => ⟨hd pairs, fun line => hd pairs _⟩,
    fun f => ⟨Guarded.two_le_tokenCount f, ?pairs, Guarded.exists_vertices_iff, ?count⟩⟩
  case interpreters =>
    intro kind layout tokens
    rw [Guarded.interpreter_eq, Interpreter.interpret_lift]
    rfl
  case pairs => exact fun pair h => Guarded.length_of_mem_chunks h
  case count => exact fun points h => Guarded.length_of_vertices f h

-- Circles that are read as polygons, from tokens some of which are blank or empty.
theorem Chain.handle_never_halts_on_crossed_chain :
    let crossed : Interpreter (ExceptT Halt Logged) := ⟨.circle, Guarded.reader .polygon⟩
    let tokens := ["", "circle", "1", "", "3", "4", "5", "6", " "].map String.toList
    let f : Fields := ⟨[], [], ["0", "0", "+5", "0", "5", "-05"].map String.toList, []⟩
    let error := Error.malformed (.shape .circle) (.notAnInteger (.y 1) [])
    (crossed.interpret tokens).run.value = .ok (.error error) ∧
      (Chain.dispatch ⟨[crossed]⟩ tokens).run.value = .ok (.error error) ∧
      (∀ pair ∈ Guarded.chunks 2 f.arguments, pair.length = 2) ∧
      ∃ points, Guarded.vertices f.arguments = .lift (.ok points) ∧
        points.length = (f.tokenCount - 2) / 2 := by
  intro crossed tokens f error
  have ⟨hi, hc, hf⟩ := Chain.handle_never_halts
  have ⟨_, hp, hv, hl⟩ := hf f
  have hn : ∀ t ∈ f.arguments, (integer? t).isSome := by decide
  have ⟨points, h⟩ := hv.mpr ⟨by decide, fun t ht =>
    have ⟨v, hv⟩ := Option.isSome_iff_exists.mp (hn t ht)
    ⟨v.toInt, integer?_eq_some_iff.mp hv⟩⟩
  refine ⟨?_, ?_, hp, points, h, hl points h⟩
  · rw [hi .circle .polygon tokens]
    decide
  · have hd := (hc [(.circle, .polygon)]).left tokens
    exact congrArg Logged.value hd

end Easel.Command
