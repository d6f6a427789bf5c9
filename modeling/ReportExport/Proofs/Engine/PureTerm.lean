import Mathlib.Data.List.Forall2
import ReportExport.Sql.Eval

/-!
# Terms that evaluate without effects

The statements of the export repository resolve to terms of a small
fragment: values, parameters, columns of the current row, AND, OR,
comparisons, IN lists and `coalesce`. Evaluating such a term reads no table,
draws no random number and runs no query, so its value is a function of the
parameters and the rows in scope alone.

`PureTerm` is that fragment as a syntax of its own, with its value `eval`
and its image `toTerm` among the engine's terms. Two facts connect them:

* `PureTerm.matches_sound`: a resolved term that `matches` a pure term is
  that pure term's image. `matches` is a boolean check, so the kernel can
  decide it on the output of the resolver for a fixed statement text;
* `PureTerm.evalTerm_toTerm`: with enough fuel the engine's evaluator gives
  the image the value `eval` gives, and leaves the evaluation state alone.

Together they turn "run this statement's WHERE clause on a row" into a
plain function of the row.
-/

namespace ReportExport.Sql

open Text

/-! ## Running evaluations -/

section Run

variable {α β : Type} (ctx : EvalContext) (st : EvalState)

@[simp] theorem eval_bind_apply (x : Eval α) (f : α → Eval β) :
    (x >>= f) ctx st = match x ctx st with
      | .ok (a, st') => f a ctx st'
      | .error e => .error e := by
  simp only [bind, ReaderT.bind, StateT.bind, Except.bind]
  cases x ctx st <;> rfl

@[simp] theorem eval_map_apply (f : α → β) (x : Eval α) :
    (f <$> x) ctx st = match x ctx st with
      | .ok (a, st') => .ok (f a, st')
      | .error e => .error e := by
  rw [map_eq_pure_bind, eval_bind_apply]
  cases x ctx st <;> rfl

@[simp] theorem eval_pure_apply (a : α) : (pure a : Eval α) ctx st = .ok (a, st) := rfl

@[simp] theorem eval_read_apply : (read : Eval EvalContext) ctx st = .ok (ctx, st) := rfl

end Run

/-! ## The fragment -/

/-- A value a pure term holds literally. -/
inductive PureValue where
  | null
  | integer (i : Int)
  | text (s : String)

/-- The engine's value of a literal. -/
def PureValue.toValue : PureValue → SqlValue
  | .null => .null
  | .integer i => .integer i
  | .text s => .ofString s

mutual

/-- A term whose evaluation has no effect. -/
inductive PureTerm where
  | value (v : PureValue)
  | param (index : Nat)
  | column (depth slot : Nat)
  | and (a b : PureTerm)
  | or (a b : PureTerm)
  | compare (op : Comparison) (a b : PureTerm) (affinity : Affinity) (collation : Collation)
  | inList (a : PureTerm) (items : PureTerms) (affinity : Affinity) (collation : Collation)
      (negated : Bool)
  | coalesce (args : PureTerms) (collation : Collation)

/-- A list of pure terms. -/
inductive PureTerms where
  | nil
  | cons (t : PureTerm) (ts : PureTerms)

end

mutual

/-- The engine's term of a pure term. -/
def PureTerm.toTerm : PureTerm → Term
  | .value v => .value v.toValue
  | .param i => .param i
  | .column d s => .column d s
  | .and a b => .and a.toTerm b.toTerm
  | .or a b => .or a.toTerm b.toTerm
  | .compare op a b aff coll => .compare op a.toTerm b.toTerm ⟨aff, coll⟩
  | .inList a items aff coll negated => .inList a.toTerm items.toTerms ⟨aff, coll⟩ negated
  | .coalesce args coll => .call "coalesce" args.toTerms coll

/-- The engine's terms of a list of pure terms. -/
def PureTerms.toTerms : PureTerms → List Term
  | .nil => []
  | .cons t ts => t.toTerm :: ts.toTerms

end

/-- The first value that is not NULL, or NULL. -/
def firstNonNull (vs : List SqlValue) : SqlValue :=
  vs.foldl (fun r v => if r.isNull then v else r) .null

mutual

/-- The value of a pure term, given the parameters and the rows in scope. -/
def PureTerm.eval (params : Array SqlValue) (env : Env) : PureTerm → SqlValue
  | .value v => v.toValue
  | .param i => params[i - 1]?.getD .null
  | .column d s => (scopeAt env d).row[s]?.getD .null
  | .and a b =>
    let x := (a.eval params env).truth?
    if x == some false then .integer 0 else ofTruth (andValues x (b.eval params env).truth?)
  | .or a b =>
    let x := (a.eval params env).truth?
    if x == some true then .integer 1 else ofTruth (orValues x (b.eval params env).truth?)
  | .compare op a b aff coll => compareValues op ⟨aff, coll⟩ (a.eval params env) (b.eval params env)
  | .inList a items aff coll negated =>
    let x := a.eval params env
    if x.isNull then .null
    else
      let vs := items.eval params env
      let r : Option Bool :=
        if vs.any (fun v => compareUnder ⟨aff, coll⟩ x v == some .eq) then some true
        else if vs.any (·.isNull) then none
        else some false
      ofTruth (if negated then r.map (!·) else r)
  | .coalesce args _ => firstNonNull (args.eval params env)

/-- The values of a list of pure terms. -/
def PureTerms.eval (params : Array SqlValue) (env : Env) : PureTerms → List SqlValue
  | .nil => []
  | .cons t ts => t.eval params env :: ts.eval params env

end

mutual

/-- The fuel the engine's evaluator spends on a pure term, less one. -/
def PureTerm.depth : PureTerm → Nat
  | .value _ | .param _ | .column _ _ => 0
  | .and a b | .or a b | .compare _ a b _ _ => max a.depth b.depth + 1
  | .inList a items _ _ _ => max a.depth items.depth + 1
  | .coalesce args _ => args.depth + 1

/-- The fuel the engine spends on a list of terms, less one: each term
after the first is evaluated one level deeper. -/
def PureTerms.depth : PureTerms → Nat
  | .nil => 0
  | .cons t ts => max t.depth ts.depth + 1

end

/-! ## Recognising pure terms among resolved ones -/

/-- Whether an engine value is the value of a literal. -/
def PureValue.matches : PureValue → SqlValue → Bool
  | .null, .null => true
  | .integer i, .integer j => i == j
  | .text s, .text b => bytesOf s == b
  | _, _ => false

theorem PureValue.matches_sound {p : PureValue} {v : SqlValue} (h : p.matches v = true) :
    v = p.toValue := by
  cases p <;> cases v <;> simp_all [PureValue.matches, PureValue.toValue, SqlValue.ofString]

mutual

/-- Whether a resolved term is the image of a pure term. -/
def PureTerm.matches : PureTerm → Term → Bool
  | .value p, .value v => p.matches v
  | .param i, .param j => i == j
  | .column d s, .column d' s' => d == d' && s == s'
  | .and a b, .and a' b' => a.matches a' && b.matches b'
  | .or a b, .or a' b' => a.matches a' && b.matches b'
  | .compare op a b aff coll, .compare op' a' b' r =>
    op == op' && a.matches a' && b.matches b' && aff == r.affinity && coll == r.collation
  | .inList a items aff coll n, .inList a' items' r n' =>
    a.matches a' && items.matches items' && aff == r.affinity && coll == r.collation && n == n'
  | .coalesce args coll, .call name args' coll' =>
    name == "coalesce" && args.matches args' && coll == coll'
  | _, _ => false

/-- Whether resolved terms are the images of a list of pure terms. -/
def PureTerms.matches : PureTerms → List Term → Bool
  | .nil, [] => true
  | .cons t ts, u :: us => t.matches u && ts.matches us
  | _, _ => false

end

mutual

theorem PureTerm.matches_sound : ∀ (p : PureTerm) (t : Term), p.matches t = true → t = p.toTerm
  | .value p, t, h => by
    cases t <;> simp only [PureTerm.matches, reduceCtorEq] at h
    simp [PureTerm.toTerm, PureValue.matches_sound h]
  | .param i, t, h => by
    cases t <;> simp_all [PureTerm.matches, PureTerm.toTerm]
  | .column d s, t, h => by
    cases t <;> simp_all [PureTerm.matches, PureTerm.toTerm]
  | .and a b, t, h => by
    cases t <;> simp only [PureTerm.matches, Bool.and_eq_true, reduceCtorEq] at h
    rw [PureTerm.toTerm, ← PureTerm.matches_sound a _ h.1, ← PureTerm.matches_sound b _ h.2]
  | .or a b, t, h => by
    cases t <;> simp only [PureTerm.matches, Bool.and_eq_true, reduceCtorEq] at h
    rw [PureTerm.toTerm, ← PureTerm.matches_sound a _ h.1, ← PureTerm.matches_sound b _ h.2]
  | .compare op a b aff coll, t, h => by
    cases t <;> simp only [PureTerm.matches, Bool.and_eq_true, beq_iff_eq, reduceCtorEq] at h
    obtain ⟨⟨⟨⟨rfl, ha⟩, hb⟩, rfl⟩, rfl⟩ := h
    rw [PureTerm.toTerm, ← PureTerm.matches_sound a _ ha, ← PureTerm.matches_sound b _ hb]
  | .inList a items aff coll n, t, h => by
    cases t <;> simp only [PureTerm.matches, Bool.and_eq_true, beq_iff_eq, reduceCtorEq] at h
    obtain ⟨⟨⟨⟨ha, hitems⟩, rfl⟩, rfl⟩, rfl⟩ := h
    rw [PureTerm.toTerm, ← PureTerm.matches_sound a _ ha, ← PureTerms.matches_sound items _ hitems]
  | .coalesce args coll, t, h => by
    cases t <;> simp only [PureTerm.matches, Bool.and_eq_true, beq_iff_eq, reduceCtorEq] at h
    obtain ⟨⟨rfl, hargs⟩, rfl⟩ := h
    rw [PureTerm.toTerm, ← PureTerms.matches_sound args _ hargs]

theorem PureTerms.matches_sound : ∀ (ps : PureTerms) (ts : List Term), ps.matches ts = true →
    ts = ps.toTerms
  | .nil, [], _ => rfl
  | .cons p ps, t :: ts, h => by
    simp only [PureTerms.matches, Bool.and_eq_true] at h
    rw [PureTerms.toTerms, ← PureTerm.matches_sound p t h.1, ← PureTerms.matches_sound ps ts h.2]
  | .nil, _ :: _, h | .cons _ _, [], h => by simp [PureTerms.matches] at h

end

/-! ## Evaluation -/

/-- The loop of `coalesce`: once a value is not NULL, the arguments after it
are not evaluated. -/
theorem forIn_coalesce {g : Nat} {env : Env} {ctx : EvalContext} {st : EvalState} :
    ∀ {ts : List Term} {vs : List SqlValue},
      List.Forall₂ (fun t v => evalTerm g env t ctx st = .ok (v, st)) ts vs → ∀ r : SqlValue,
      (forIn ts r fun a s =>
        if s.isNull = true then ForInStep.yield <$> evalTerm g env a else pure (ForInStep.yield s)) ctx st =
        .ok (vs.foldl (fun r v => if r.isNull then v else r) r, st)
  | [], [], .nil, r => rfl
  | t :: ts, v :: vs, .cons hv rest, r => by
    cases hr : r.isNull
    · simp [hr, forIn_coalesce rest]
    · simp [hr, hv, forIn_coalesce rest]

mutual

theorem PureTerm.evalTerm_toTerm : ∀ (p : PureTerm) (fuel : Nat) (env : Env) (ctx : EvalContext)
    (st : EvalState), p.depth < fuel → evalTerm fuel env p.toTerm ctx st = .ok (p.eval ctx.params env, st)
  | _, 0, _, _, _, h => absurd h (Nat.not_lt_zero _)
  | .value v, fuel + 1, env, ctx, st, _ => by simp [PureTerm.toTerm, evalTerm, PureTerm.eval]
  | .param i, fuel + 1, env, ctx, st, _ => by simp [PureTerm.toTerm, evalTerm, PureTerm.eval]
  | .column d s, fuel + 1, env, ctx, st, _ => by simp [PureTerm.toTerm, evalTerm, PureTerm.eval]
  | .and a b, fuel + 1, env, ctx, st, h => by
    simp only [PureTerm.depth] at h
    have ha := PureTerm.evalTerm_toTerm a fuel env ctx st (by omega)
    have hb := PureTerm.evalTerm_toTerm b fuel env ctx st (by omega)
    simp only [PureTerm.toTerm, evalTerm, eval_bind_apply, ha, PureTerm.eval]
    split <;> simp [hb]
  | .or a b, fuel + 1, env, ctx, st, h => by
    simp only [PureTerm.depth] at h
    have ha := PureTerm.evalTerm_toTerm a fuel env ctx st (by omega)
    have hb := PureTerm.evalTerm_toTerm b fuel env ctx st (by omega)
    simp only [PureTerm.toTerm, evalTerm, eval_bind_apply, ha, PureTerm.eval]
    split <;> simp [hb]
  | .compare op a b aff coll, fuel + 1, env, ctx, st, h => by
    simp only [PureTerm.depth] at h
    have ha := PureTerm.evalTerm_toTerm a fuel env ctx st (by omega)
    have hb := PureTerm.evalTerm_toTerm b fuel env ctx st (by omega)
    simp [PureTerm.toTerm, evalTerm, ha, hb, PureTerm.eval]
  | .inList a items aff coll negated, fuel + 1, env, ctx, st, h => by
    simp only [PureTerm.depth] at h
    have ha := PureTerm.evalTerm_toTerm a fuel env ctx st (by omega)
    have hitems := PureTerms.evalTerms_toTerms items fuel env ctx st (by omega)
    simp only [PureTerm.toTerm, evalTerm, eval_bind_apply, ha, PureTerm.eval]
    split <;> simp [hitems]
  | .coalesce args coll, fuel + 1, env, ctx, st, h => by
    simp only [PureTerm.depth] at h
    obtain ⟨g, rfl⟩ : ∃ g, fuel = g + 1 := ⟨fuel - 1, by omega⟩
    have hargs := PureTerms.forall_evalTerm args g env ctx st (by omega)
    simp [PureTerm.toTerm, evalTerm, evalCall, forIn_coalesce hargs, PureTerm.eval, firstNonNull]

theorem PureTerms.evalTerms_toTerms : ∀ (ps : PureTerms) (fuel : Nat) (env : Env) (ctx : EvalContext)
    (st : EvalState), ps.depth < fuel →
      evalTerms fuel env ps.toTerms ctx st = .ok (ps.eval ctx.params env, st)
  | _, 0, _, _, _, h => absurd h (Nat.not_lt_zero _)
  | .nil, fuel + 1, env, ctx, st, _ => by simp [PureTerms.toTerms, evalTerms, PureTerms.eval]
  | .cons p ps, fuel + 1, env, ctx, st, h => by
    simp only [PureTerms.depth] at h
    have hp := PureTerm.evalTerm_toTerm p fuel env ctx st (by omega)
    have hps := PureTerms.evalTerms_toTerms ps fuel env ctx st (by omega)
    simp [PureTerms.toTerms, evalTerms, hp, hps, PureTerms.eval]

theorem PureTerms.forall_evalTerm : ∀ (ps : PureTerms) (fuel : Nat) (env : Env) (ctx : EvalContext)
    (st : EvalState), ps.depth ≤ fuel →
      List.Forall₂ (fun t v => evalTerm fuel env t ctx st = .ok (v, st)) ps.toTerms (ps.eval ctx.params env)
  | .nil, _, _, _, _, _ => .nil
  | .cons p ps, fuel, env, ctx, st, h => by
    simp only [PureTerms.depth] at h
    exact .cons (PureTerm.evalTerm_toTerm p fuel env ctx st (by omega))
      (PureTerms.forall_evalTerm ps fuel env ctx st (by omega))

end

/-- A list of pure terms has as many values as terms. -/
theorem PureTerms.length_eval (params : Array SqlValue) (env : Env) :
    ∀ ps : PureTerms, (ps.eval params env).length = ps.toTerms.length
  | .nil => rfl
  | .cons p ps => by simp [PureTerms.eval, PureTerms.toTerms, PureTerms.length_eval params env ps]

/-- A list of pure terms written as a list. -/
def PureTerms.ofList : List PureTerm → PureTerms
  | [] => .nil
  | p :: ps => .cons p (PureTerms.ofList ps)

@[simp] theorem PureTerms.eval_ofList (params : Array SqlValue) (env : Env) :
    ∀ ps : List PureTerm, (PureTerms.ofList ps).eval params env = ps.map (·.eval params env)
  | [] => rfl
  | p :: ps => by simp [PureTerms.ofList, PureTerms.eval, PureTerms.eval_ofList params env ps]

end ReportExport.Sql
