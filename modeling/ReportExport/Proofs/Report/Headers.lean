import ReportExport.Proofs.Json.Fields
import ReportExport.Report.Headers

/-!
# One label per column

A header map changes only by `insert`, which relabels a column in place or
appends a new one; building a map from pairs and decoding it from an object of
labels are both runs of `insert` from the empty map. One step is described by
`columns_insert` and `labelFor_insert`; over a whole run the columns stay
distinct, in the order of their first insertion, and each column shows the
label inserted for it last (`columns_ofPairs`, `labelFor_ofPairs`).

The entries of a header map are private to it, so the maps a program holds are
those built by insertions (`Reachable`): exactly the maps with distinct columns
(`reachable_iff_nodup`). Each of them reads back from its stored object, which
`keeps_one_label_per_column` states with the rest.
-/

namespace ReportExport

namespace HeaderMap

/-- The labelled columns, in order. -/
def columns (h : HeaderMap) : List String := h.entries.map Prod.fst

/-- The label that the last of a sequence of insertions gives `column`, or the
column itself when none names it. -/
def lastLabel (inserts : List (String × String)) (column : String) : String :=
  (inserts.reverse.lookup column).getD column

/-- The header maps a program can hold: the empty map and what insertions make
of it. Nothing else writes the entries; building from pairs and decoding are
such runs (`reachable_ofPairs`, `Reachable.of_decode`). -/
inductive Reachable : HeaderMap → Prop
  | empty : Reachable {}
  | insert {h : HeaderMap} (column label : String) : Reachable h → Reachable (h.insert column label)

section Step

variable {column label : String}

theorem insertEntry_of_not_mem :
    ∀ {entries : List (String × String)}, column ∉ entries.map Prod.fst →
      insertEntry column label entries = entries ++ [(column, label)]
  | [], _ => rfl
  | (c, l) :: rest, absent => by
    rw [List.map_cons, List.mem_cons, not_or] at absent
    rw [insertEntry, if_neg (Ne.symm absent.1), insertEntry_of_not_mem absent.2]
    rfl

theorem map_fst_insertEntry :
    ∀ entries : List (String × String), (insertEntry column label entries).map Prod.fst =
      if column ∈ entries.map Prod.fst then entries.map Prod.fst
      else entries.map Prod.fst ++ [column]
  | [] => rfl
  | (c, l) :: rest => by
    by_cases same : c = column
    · simp [insertEntry, same]
    · simp only [insertEntry, if_neg same, List.map_cons, List.mem_cons, map_fst_insertEntry rest]
      split <;> simp_all [Ne.symm same]

/-- `lookup` on labels, as a test of the key. -/
theorem lookup_cons_label (key c l : String) (rest : List (String × String)) :
    ((c, l) :: rest).lookup key = if key = c then some l else rest.lookup key := by
  by_cases same : key = c
  · simp [same]
  · have differs : (key == c) = false := by simpa using same
    simp [List.lookup, differs, same]

theorem lookup_insertEntry (key : String) :
    ∀ entries : List (String × String), (insertEntry column label entries).lookup key =
      if key = column then some label else entries.lookup key
  | [] => by simp [insertEntry]
  | (c, l) :: rest => by
    by_cases same : c = column
    · subst same
      by_cases found : key = c <;> simp [insertEntry, lookup_cons_label, found]
    · simp only [insertEntry, if_neg same, lookup_cons_label, lookup_insertEntry key rest]
      split <;> simp_all

/-- Inserting keeps the columns and their order; a new column goes last. -/
theorem columns_insert (h : HeaderMap) :
    (h.insert column label).columns =
      if column ∈ h.columns then h.columns else h.columns ++ [column] :=
  map_fst_insertEntry h.entries

theorem labelFor_eq_lookup (h : HeaderMap) (key : String) :
    h.labelFor key = (h.entries.lookup key).getD key := by
  obtain ⟨entries⟩ := h
  induction entries with
  | nil => rfl
  | cons e rest ih =>
    obtain ⟨c, l⟩ := e
    simp only [labelFor] at ih ⊢
    by_cases same : c = key
    · simp [same]
    · simp [lookup_cons_label, same, Ne.symm same, ih]

/-- Inserting relabels its own column and no other. -/
theorem labelFor_insert (h : HeaderMap) (key : String) :
    (h.insert column label).labelFor key = if key = column then label else h.labelFor key := by
  rw [labelFor_eq_lookup, labelFor_eq_lookup, insert, lookup_insertEntry]
  split <;> rfl

theorem nodup_columns_insert {h : HeaderMap} (distinct : h.columns.Nodup) :
    (h.insert column label).columns.Nodup := by
  rw [columns_insert]
  split
  · exact distinct
  · next fresh =>
    refine List.nodup_append.mpr ⟨distinct, List.nodup_singleton column, fun a mem b last same => ?_⟩
    rw [List.mem_singleton] at last
    exact fresh (last ▸ same ▸ mem)

end Step

section Run

theorem ofPairs_append (ops : List (String × String)) (column label : String) :
    ofPairs (ops ++ [(column, label)]) = (ofPairs ops).insert column label := by
  rw [ofPairs, List.foldl_append]
  rfl

theorem lastLabel_append (ops : List (String × String)) (column label key : String) :
    lastLabel (ops ++ [(column, label)]) key = if key = column then label else lastLabel ops key := by
  rw [lastLabel, List.reverse_append, List.reverse_singleton, List.singleton_append,
    lookup_cons_label]
  split <;> rfl

/-- The columns of a run are the inserted columns, each where it first
occurs. -/
theorem columns_ofPairs (ops : List (String × String)) :
    (ofPairs ops).columns = (ops.map Prod.fst).eraseDups := by
  induction ops using List.reverseRecOn with
  | nil => rfl
  | append_singleton ops op ih =>
    obtain ⟨column, label⟩ := op
    rw [ofPairs_append, columns_insert, ih, List.map_append, List.eraseDups_append]
    -- a column seen before adds nothing, a new one goes last
    by_cases seen : column ∈ ops.map Prod.fst
    · simp [seen, List.removeAll]
    · simp [seen, List.removeAll, List.eraseDups_cons]

/-- Each column shows the label inserted for it last. -/
theorem labelFor_ofPairs (ops : List (String × String)) (key : String) :
    (ofPairs ops).labelFor key = lastLabel ops key := by
  induction ops using List.reverseRecOn with
  | nil => rfl
  | append_singleton ops op ih =>
    obtain ⟨column, label⟩ := op
    rw [ofPairs_append, labelFor_insert, lastLabel_append, ih]

example : (ofPairs [("id", "ID"), ("name", "Name"), ("id", "Identifier")]).entries =
    [("id", "Identifier"), ("name", "Name")] := by
  decide

theorem Reachable.nodup {h : HeaderMap} (reach : Reachable h) : h.columns.Nodup := by
  induction reach with
  | empty => exact List.nodup_nil
  | insert column label _ distinct => exact nodup_columns_insert distinct

theorem reachable_ofPairs (ops : List (String × String)) : Reachable (ofPairs ops) := by
  induction ops using List.reverseRecOn with
  | nil => exact .empty
  | append_singleton ops op ih =>
    rw [ofPairs_append]
    exact .insert op.1 op.2 ih

/-- Entries with distinct columns are what inserting them one by one gives. -/
theorem ofPairs_entries : ∀ {h : HeaderMap}, h.columns.Nodup → ofPairs h.entries = h
  | ⟨entries⟩, distinct => by
    induction entries using List.reverseRecOn with
    | nil => rfl
    | append_singleton es e ih =>
      obtain ⟨c, l⟩ := e
      simp only [columns, List.map_append, List.map_cons, List.map_nil, List.nodup_append,
        List.nodup_singleton, List.mem_singleton] at distinct
      have fresh : c ∉ es.map Prod.fst := fun mem => distinct.2.2 c mem c rfl rfl
      rw [ofPairs_append, ih distinct.1]
      show (⟨insertEntry c l es⟩ : HeaderMap) = _
      rw [insertEntry_of_not_mem fresh]

/-- The maps insertions can build are exactly those with distinct columns. -/
theorem reachable_iff_nodup {h : HeaderMap} : Reachable h ↔ h.columns.Nodup :=
  ⟨Reachable.nodup, fun distinct => ofPairs_entries distinct ▸ reachable_ofPairs h.entries⟩

end Run

section Stored

theorem setEntry_labels (column label : String) :
    ∀ entries : List (String × String),
      Json.setEntry column (Json.str label) (entries.map fun e => (e.1, Json.str e.2)) =
        (insertEntry column label entries).map fun e => (e.1, Json.str e.2)
  | [] => rfl
  | (c, l) :: rest => by
    by_cases same : c = column
    · simp [Json.setEntry, insertEntry, same]
    · simp [Json.setEntry, insertEntry, same, setEntry_labels column label rest]

/-- Merging the members of an object of labels inserts them as building from
the pairs does. -/
theorem merged_labels (ops : List (String × String)) :
    (ops.map fun e => (e.1, Json.str e.2)).foldl (fun acc (k, a) => Json.setEntry k a acc) [] =
      (ofPairs ops).entries.map fun e => (e.1, Json.str e.2) := by
  induction ops using List.reverseRecOn with
  | nil => rfl
  | append_singleton ops op ih =>
    rw [List.map_append, List.foldl_append, ih, ofPairs_append]
    exact setEntry_labels op.1 op.2 (ofPairs ops).entries

/-- Inserting the labels of distinct new columns appends them, for any fold
step that inserts a text label. -/
theorem foldlM_insert_labels {step : HeaderMap → String × Json → Decoded HeaderMap}
    (inserts : ∀ h c l, step h (c, .str l) = .ok (h.insert c l)) :
    ∀ (es acc : List (String × String)), (es.map Prod.fst).Nodup →
      (∀ c ∈ es.map Prod.fst, c ∉ acc.map Prod.fst) →
      (es.map fun e => (e.1, Json.str e.2)).foldlM step ⟨acc⟩ = .ok ⟨acc ++ es⟩
  | [], acc, _, _ => by
    rw [List.append_nil]
    rfl
  | (c, l) :: rest, acc, distinct, fresh => by
    simp only [List.map_cons, List.nodup_cons] at distinct
    simp only [List.map_cons, List.forall_mem_cons] at fresh
    have later : ∀ c' ∈ rest.map Prod.fst, c' ∉ (acc ++ [(c, l)]).map Prod.fst := by
      intro c' mem
      simp only [List.map_append, List.map_cons, List.map_nil, List.mem_append, List.mem_singleton,
        not_or]
      exact ⟨fresh.2 c' mem, fun same => distinct.1 (same ▸ mem)⟩
    have rest_read := foldlM_insert_labels inserts rest (acc ++ [(c, l)]) distinct.2 later
    rw [List.append_assoc, List.singleton_append] at rest_read
    rw [List.map_cons, List.foldlM_cons, inserts]
    simp only [insert, insertEntry_of_not_mem fresh.1]
    exact rest_read

/-- Decoding an object of labels inserts its members in order, a repeated
column keeping its first place and its last label. -/
theorem decode_labels (ops : List (String × String)) :
    decode (.obj (ops.map fun e => (e.1, .str e.2))) = .ok (ofPairs ops) := by
  have members : Json.asMap Json.asValue (.obj (ops.map fun e => (e.1, .str e.2))) =
      .ok ((ofPairs ops).entries.map fun e => (e.1, Json.str e.2)) := by
    -- a text label is its own merged value
    rw [Json.asMap_obj_merged (g := Json.merged) (fun _ _ => rfl), ← merged_labels, List.map_map]
    rfl
  have distinct : ((ofPairs ops).entries.map Prod.fst).Nodup := (reachable_ofPairs ops).nodup
  rw [decode, members]
  exact foldlM_insert_labels (fun _ _ _ => rfl) _ [] distinct (by simp)

/-- A map with one label per column reads back from its stored form. -/
theorem decode_toJson {h : HeaderMap} (distinct : (h.entries.map Prod.fst).Nodup) :
    decode h.toJson = .ok h :=
  calc decode h.toJson = decode (.obj (h.entries.map fun e => (e.1, .str e.2))) := rfl
    _ = .ok (ofPairs h.entries) := decode_labels h.entries
    _ = .ok h := by rw [ofPairs_entries distinct]

/-- A fold whose every successful step is an insertion keeps a map
reachable. -/
theorem foldlM_reachable {α : Type} {step : HeaderMap → α → Decoded HeaderMap}
    (inserts : ∀ h m h', step h m = .ok h' → ∃ c l, h' = h.insert c l) :
    ∀ (ms : List α) {h h' : HeaderMap}, Reachable h → ms.foldlM step h = .ok h' → Reachable h'
  | [], _, _, reach, done => by
    cases done
    exact reach
  | m :: ms, h, h', reach, done => by
    rw [List.foldlM_cons] at done
    cases stepped : step h m with
    | error e =>
      rw [stepped] at done
      cases done
    | ok next =>
      rw [stepped] at done
      obtain ⟨c, l, rfl⟩ := inserts h m next stepped
      exact foldlM_reachable inserts ms (.insert c l reach) done

/-- Every decoded map is built by insertions. -/
theorem Reachable.of_decode {j : Json} {h : HeaderMap} (decoded : decode j = .ok h) :
    Reachable h := by
  rw [decode] at decoded
  cases members : Json.asMap Json.asValue j with
  | error e =>
    rw [members] at decoded
    cases decoded
  | ok ms =>
    rw [members] at decoded
    refine foldlM_reachable ?_ ms .empty decoded
    -- a member with a text label is inserted; any other fails the decoding
    rintro h₀ ⟨c, v⟩ h' stepped
    cases v
    case str l => exact ⟨c, l, (Except.ok.inj stepped).symm⟩
    all_goals cases stepped

end Stored

/-- A header map keeps one label per column. A run of insertions, which is also
how a map is built from pairs and how an object of labels is decoded, leaves
the columns distinct and in the order of their first insertion, labels each
column by its last insertion and any other column by itself; and every map a
program can hold reads back from its stored object. -/
theorem keeps_one_label_per_column :
    (∀ ops : List (String × String),
      (ofPairs ops).columns.Nodup ∧
      (ofPairs ops).columns = (ops.map Prod.fst).eraseDups ∧
      (∀ column, (ofPairs ops).labelFor column = lastLabel ops column) ∧
      decode (.obj (ops.map fun op => (op.1, .str op.2))) = .ok (ofPairs ops)) ∧
    ∀ h : HeaderMap, Reachable h → decode h.toJson = .ok h :=
  ⟨fun ops => ⟨(reachable_ofPairs ops).nodup, columns_ofPairs ops, labelFor_ofPairs ops,
      decode_labels ops⟩,
    fun _ reach => decode_toJson reach.nodup⟩

/-- Two labels inserted out of alphabetical order read back in their order. -/
theorem unsorted_labels_read_back :
    Reachable ((({} : HeaderMap).insert "z" "Zed").insert "a" "Ay") ∧
      decode ((({} : HeaderMap).insert "z" "Zed").insert "a" "Ay").toJson =
        .ok ((({} : HeaderMap).insert "z" "Zed").insert "a" "Ay") :=
  have reach : Reachable ((({} : HeaderMap).insert "z" "Zed").insert "a" "Ay") :=
    .insert "a" "Ay" (.insert "z" "Zed" .empty)
  ⟨reach, keeps_one_label_per_column.2 _ reach⟩

end HeaderMap

end ReportExport
