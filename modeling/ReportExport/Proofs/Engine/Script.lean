import ReportExport.Sql.Connection

/-!
# Scripts of one statement

The repository runs each request as a script of one statement whose
parameters are all `?`, given exactly as many arguments as it has
parameters. Such a script is its statement run once: the arguments are the
parameters' values in order (`bindParameters_positional`), and the script's
result is the statement's rows and change count (`Connection.run_single`).

`Parser.Source.single?` is the check that a text is such a script; it is a
boolean function of the text, so the kernel decides it for a fixed text.
-/

namespace ReportExport.Sql

open Text

/-! ## Binding positional parameters -/

/-- Filling the parameters `k + 1, …, k + m` from arguments that are all
there, each from the argument of its position. -/
theorem bindParameters_fill (args : Array SqlValue) : ∀ (m k : Nat) (v : Array SqlValue), k + m ≤ args.size →
    (forIn (m := Id) (List.range' (k + 1) m) (none, v, k, false) fun i s =>
      if s.2.2.2 = false then
        if args.size < s.2.2.1 + 1 then pure (ForInStep.yield (none, s.2.1, s.2.2.1 + 1, true))
        else pure (ForInStep.yield (none, s.2.1.setIfInBounds (i - 1) args[s.2.2.1]!, s.2.2.1 + 1, s.2.2.2))
      else pure (ForInStep.yield (none, s.2.1, s.2.2.1, s.2.2.2))) =
      ((none : Option (Except String (Array SqlValue × Nat))),
        (List.range' k m).foldl (fun v j => v.setIfInBounds j args[j]!) v, k + m, false)
  | 0, k, v, _ => rfl
  | m + 1, k, v, h => by
    rw [List.range'_succ, List.forIn_cons, List.range'_succ, List.foldl_cons]
    have hk : ¬ args.size < k + 1 := by omega
    simp only [if_true, hk, if_false, Nat.add_sub_cancel, pure_bind]
    rw [bindParameters_fill args m (k + 1) _ (by omega), show k + 1 + m = k + (m + 1) by omega]

/-- Writing every argument from the position `k` on into an array that
holds the arguments before it gives the arguments. -/
theorem fill_from (args : Array SqlValue) : ∀ (m k : Nat) (v : Array SqlValue), v.size = args.size →
    k + m = args.size → (∀ j < k, v[j]? = args[j]?) →
      (List.range' k m).foldl (fun v j => v.setIfInBounds j args[j]!) v = args
  | 0, k, v, hsize, hk, hv => by
    rw [List.range'_zero, List.foldl_nil]
    apply Array.ext_getElem?
    intro j
    by_cases hj : j < k
    · exact hv j hj
    · rw [Array.getElem?_eq_none (by omega), Array.getElem?_eq_none (by omega)]
  | m + 1, k, v, hsize, hk, hv => by
    rw [List.range'_succ, List.foldl_cons]
    apply fill_from args m (k + 1) _ (by simp [hsize]) (by omega)
    intro j hj
    rw [Array.getElem?_setIfInBounds]
    by_cases same : k = j
    · subst same
      have inside : k < args.size := by omega
      rw [if_pos rfl, if_pos (by omega), Array.getElem?_eq_getElem inside, getElem!_pos args k inside]
    · rw [if_neg same]
      exact hv j (by omega)

/-- A statement whose parameters are all `?`, given as many arguments as it
has parameters, takes them all, in order. -/
theorem bindParameters_positional (p : Parser.Parsed) (args : Array SqlValue) (positional : p.names = [])
    (count : args.size = p.parameters) : bindParameters p args 0 = .ok (args, p.parameters) := by
  simp only [bindParameters, positional, List.find?_nil]
  simp only [Bool.not_eq_eq_eq_not, Bool.not_true, gt_iff_lt, Bool.or_eq_true, decide_eq_true_eq, beq_iff_eq,
    Array.set!_eq_setIfInBounds, pure_bind, Nat.add_eq_zero_iff, Nat.succ_ne_self, and_false, or_false,
    Nat.add_one_sub_one, Std.Legacy.Range.forIn_eq_forIn_range', Std.Legacy.Range.size, Nat.div_one, Nat.sub_zero,
    Id.run_bind]
  rw [show (1 : Nat) = 0 + 1 from rfl, bindParameters_fill args p.parameters 0 _ (by omega)]
  rw [← count, fill_from args args.size 0 _ (by simp) (by simp) (by simp), Nat.zero_add]
  rfl

/-! ## One statement -/

/-- The statement of a text that holds exactly one, with positional
parameters only. -/
def Parser.Source.single? (src : Parser.Source) : Option Parser.Parsed :=
  match src.nextStatement 0 with
  | some k =>
    match src.parseAt k with
    | .ok p => if p.names.isEmpty && (src.nextStatement p.next).isNone then some p else none
    | .error _ => none
  | none => none

theorem Parser.Source.single?_spec {src : Parser.Source} {p : Parser.Parsed} (h : src.single? = some p) :
    ∃ k, src.nextStatement 0 = some k ∧ src.parseAt k = .ok p ∧ p.names = [] ∧
      src.nextStatement p.next = none := by
  unfold Parser.Source.single? at h
  split at h
  · rename_i k hk
    split at h
    · rename_i q hq
      simp only [Bool.and_eq_true, List.isEmpty_iff, Option.isNone_iff_eq_none] at h
      split at h
      · cases h
        rename_i hcond
        exact ⟨k, hk, hq, hcond.1, hcond.2⟩
      · cases h
    · cases h
  · cases h

/-- A script of one statement with positional parameters, given one
argument per parameter, runs that statement once. -/
theorem Connection.run_single {text : String} {p : Parser.Parsed}
    (hp : (Parser.Source.ofBytes (bytesOf text)).single? = some p) (c : Connection) (args : List SqlValue)
    (count : args.length = p.parameters) :
    c.run text args = match c.execute args.toArray p.statement with
      | (c', .error e) => (c', .error (.engine e))
      | (c', .ok rows) => (c', .ok ⟨rows.rows.toList.map (fun r => (rows.columns, r.toList)),
          c'.db.changes, p.statement.changesSchema⟩) := by
  obtain ⟨k, hk, hq, positional, hnext⟩ := Parser.Source.single?_spec hp
  have hbind := bindParameters_positional p args.toArray positional (by simpa using count)
  unfold Connection.run
  rw [Connection.run.go, hk]
  simp only [hq, hbind]
  rcases h : c.execute args.toArray p.statement with ⟨c', _ | rows⟩
  · rfl
  · cases (Parser.Source.ofBytes (bytesOf text)).tokens.size <;> simp [Connection.run.go, hnext]

end ReportExport.Sql
