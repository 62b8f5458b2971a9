import BoundSql.Proofs.Statement
import Mathlib.Data.List.Infix

/-! Conjuncts stay apart. A condition with several templates is cut at the separators outside all
parentheses, and as long as the parentheses of every template match, this gives the templates back:
none of them can end its own conjunct or reach into the next. -/
namespace BoundSql

def isParenthesis (c : Char) : Bool := c = '(' ∨ c = ')'

/-- How many more parentheses are opened than closed. -/
def nesting (text : List Char) : Int := text.count '(' - text.count ')'

/-- No parenthesis is closed that was not opened before, and none is left open. -/
structure Balanced (text : List Char) : Prop where
  covered : ∀ front, front <+: text → 0 ≤ nesting front
  closed : nesting text = 0

instance (text : List Char) : Decidable (Balanced text) :=
  decidable_of_iff ((∀ front ∈ text.inits, 0 ≤ nesting front) ∧ nesting text = 0)
    ⟨fun ⟨covered, closed⟩ => ⟨fun front h => covered front ((List.mem_inits _ _).mpr h), closed⟩,
      fun ⟨covered, closed⟩ => ⟨fun front h => covered front ((List.mem_inits _ _).mp h), closed⟩⟩

/-- What stands between two conjuncts. -/
def conjunctSeparator : List Char := " AND ".toList

/-- The text cut at each separator outside all parentheses, with `depth` of them open before it. -/
def topLevelParts (depth : Int) : List Char → List (List Char)
  | [] => [[]]
  | c :: rest =>
    if depth = 0 ∧ conjunctSeparator <+: c :: rest then
      [] :: topLevelParts depth (rest.drop (conjunctSeparator.length - 1))
    else (topLevelParts (depth + nesting [c]) rest).modifyHead (c :: ·)
termination_by text => text.length
decreasing_by
  · simp only [List.length_drop, List.length_cons]; omega
  · exact Nat.lt_succ_self _

def grouped (text : List Char) : List Char := '(' :: (text ++ [')'])

@[simp] theorem nesting_nil : nesting [] = 0 := rfl

@[simp] theorem nesting_append (a b : List Char) : nesting (a ++ b) = nesting a + nesting b := by
  simp only [nesting, List.count_append]
  omega

theorem nesting_cons (c : Char) (text : List Char) : nesting (c :: text) = nesting [c] + nesting text :=
  nesting_append [c] text

theorem nesting_filter (text : List Char) : nesting (text.filter isParenthesis) = nesting text := by
  rw [nesting, List.count_filter rfl, List.count_filter rfl, nesting]

/-- Only the parentheses of a text decide whether they match. -/
theorem Balanced.of_filter_eq {text other : List Char}
    (same : other.filter isParenthesis = text.filter isParenthesis) (balanced : Balanced text) :
    Balanced other := by
  constructor
  · intro front h
    have short : front.filter isParenthesis <+: text.filter isParenthesis := same ▸ h.filter _
    obtain ⟨like, inside, same⟩ := List.prefix_filter_iff.mp short
    rw [← nesting_filter, same, nesting_filter]
    exact balanced.covered like inside
  · rw [← nesting_filter, same, nesting_filter]
    exact balanced.closed

theorem filter_placeholder (place : Nat) : (placeholder place).filter isParenthesis = [] := by
  rw [List.filter_eq_nil_iff]
  intro c here
  rcases List.mem_cons.mp here with rfl | digit
  · decide
  · have := Text.isDigit_of_mem_digits digit
    rintro parenthesis
    simp only [isParenthesis, decide_eq_true_eq] at parenthesis
    rcases parenthesis with rfl | rfl <;> cases this

theorem filter_numbered (used : Nat) (text : List Char) :
    (numbered used text).filter isParenthesis = text.filter isParenthesis := by
  induction text generalizing used with
  | nil => rfl
  | cons c rest ih =>
    by_cases h : c = marker
    · have plain : isParenthesis c = false := by rw [h]; rfl
      rw [numbered, if_pos h, List.filter_append, filter_placeholder, ih, List.nil_append,
        List.filter_cons_of_neg (by simp [plain])]
    · rw [numbered, if_neg h, List.filter_cons, List.filter_cons, ih]

theorem topLevelParts_cons {depth : Int} {c : Char} {rest : List Char}
    (inside : ¬ (depth = 0 ∧ conjunctSeparator <+: c :: rest)) :
    topLevelParts depth (c :: rest) =
      (topLevelParts (depth + nesting [c]) rest).modifyHead (c :: ·) := by
  rw [topLevelParts, if_neg inside]

theorem topLevelParts_separator (rest : List Char) :
    topLevelParts 0 (conjunctSeparator ++ rest) = [] :: topLevelParts 0 rest := by
  have first : conjunctSeparator <+: ' ' :: ("AND ".toList ++ rest) := List.prefix_append _ rest
  rw [show conjunctSeparator ++ rest = ' ' :: ("AND ".toList ++ rest) from rfl, topLevelParts,
    if_pos ⟨rfl, first⟩]
  rfl

/-- Text is kept whole as long as some parenthesis stays open in it. -/
theorem topLevelParts_append {depth : Int} {text : List Char} (rest : List Char)
    (inside : ∀ front, front <+: text → front ≠ text → 0 < depth + nesting front) :
    topLevelParts depth (text ++ rest) =
      (topLevelParts (depth + nesting text) rest).modifyHead (text ++ ·) := by
  induction text generalizing depth with
  | nil =>
    rw [nesting_nil, Int.add_zero]
    exact (congrFun List.modifyHead_id _).symm
  | cons c text ih =>
    have start : 0 < depth := by simpa using inside [] (List.nil_prefix) nofun
    have next : ∀ front, front <+: text → front ≠ text → 0 < depth + nesting [c] + nesting front := by
      intro front h proper
      have := inside (c :: front) (List.cons_prefix_cons.mpr ⟨rfl, h⟩) (by simpa using proper)
      rw [nesting_cons] at this
      omega
    rw [List.cons_append, topLevelParts_cons (fun ⟨outside, _⟩ => by omega), ih next,
      nesting_cons c text, List.modifyHead_modifyHead, ← Int.add_assoc]
    rfl

/-- What stands in parentheses of its own is part of one conjunct. -/
theorem topLevelParts_grouped {text : List Char} (balanced : Balanced text) (rest : List Char) :
    topLevelParts 0 (grouped text ++ rest) =
      (topLevelParts 0 rest).modifyHead (grouped text ++ ·) := by
  have opening : ¬ (0 = (0 : Int) ∧ conjunctSeparator <+: '(' :: (text ++ [')'] ++ rest)) := by
    rintro ⟨-, first⟩
    have := (List.cons_prefix_cons.mp first).1
    cases this
  have inside : ∀ front, front <+: text ++ [')'] → front ≠ text ++ [')'] →
      0 < (0 : Int) + nesting ['('] + nesting front := by
    intro front h proper
    rcases List.prefix_concat_iff.mp h with whole | short
    · exact absurd whole proper
    · have := balanced.covered front short
      have : nesting ['('] = 1 := rfl
      omega
  have ending : (0 : Int) + nesting ['('] + nesting (text ++ [')']) = 0 := by
    rw [nesting_append, balanced.closed]
    rfl
  rw [grouped, List.cons_append, topLevelParts_cons opening, topLevelParts_append rest inside, ending,
    List.modifyHead_modifyHead]
  rfl

/-- Cutting undoes joining. -/
theorem topLevelParts_intercalate {texts : List (List Char)} (nonempty : texts ≠ [])
    (balanced : ∀ text ∈ texts, Balanced text) :
    topLevelParts 0 (conjunctSeparator.intercalate (texts.map grouped)) = texts.map grouped := by
  induction texts with
  | nil => exact absurd rfl nonempty
  | cons text rest ih =>
    obtain ⟨first, others⟩ := List.forall_mem_cons.mp balanced
    cases rest with
    | nil =>
      have alone := topLevelParts_grouped first []
      rw [List.append_nil, topLevelParts] at alone
      simpa using alone
    | cons next rest =>
      rw [List.map_cons, List.map_cons, List.intercalate_cons_cons, List.append_assoc,
        topLevelParts_grouped first, topLevelParts_separator, ← List.map_cons (f := grouped),
        ih (by simp) others]
      simp

/-- The templates are rendered in order, each behind the parameters of those before it. -/
theorem render_of_renderAll {used : Nat} {predicates : List Fragment} {texts : List String}
    (rendered : renderAll used predicates = .ok texts) :
    texts.length = predicates.length ∧ ∀ (i : Nat) (f : Fragment), predicates[i]? = some f →
      ∃ text, texts[i]? = some text ∧
        f.render (used + ((predicates.take i).flatMap Fragment.params).length) = .ok text := by
  induction predicates generalizing used texts with
  | nil => cases rendered; simp
  | cons f rest ih =>
    rw [renderAll] at rendered
    cases first : f.render used with
    | error reason => rw [first] at rendered; cases rendered
    | ok text =>
      rw [first] at rendered
      obtain ⟨texts', others, rfl⟩ := map_eq_ok_iff.mp rendered
      obtain ⟨length, each⟩ := ih others
      refine ⟨by simp [length], fun i g place => ?_⟩
      cases i with
      | zero => cases place; exact ⟨text, rfl, first⟩
      | succ i =>
        obtain ⟨text', here, shown⟩ := each i g place
        refine ⟨text', here, ?_⟩
        rwa [List.take_succ_cons, List.flatMap_cons, List.length_append, ← Nat.add_assoc]

theorem Fragment.render_false (used : Nat) : render ⟨"1=0", []⟩ used = .ok "1=0" := by
  simp [render, markerCount, numbered, marker]

theorem Fragment.render_balanced {f : Fragment} {used : Nat} {text : String}
    (rendered : f.render used = .ok text) (balanced : Balanced f.text.toList) :
    Balanced text.toList := by
  obtain ⟨filled, rfl⟩ := Fragment.render_eq_ok_iff.mp rendered
  rw [String.toList_ofList, Fragment.spell_pieces used filled]
  exact balanced.of_filter_eq (filter_numbered used _)

theorem renderAll_balanced {used : Nat} {predicates : List Fragment} {texts : List String}
    (rendered : renderAll used predicates = .ok texts)
    (balanced : ∀ f ∈ predicates, Balanced f.text.toList) : ∀ text ∈ texts, Balanced text.toList := by
  intro text member
  obtain ⟨length, each⟩ := render_of_renderAll rendered
  obtain ⟨i, bound, rfl⟩ := List.mem_iff_getElem.mp member
  have place : predicates[i]? = some predicates[i] := List.getElem?_eq_getElem (length ▸ bound)
  obtain ⟨text, here, shown⟩ := each i _ place
  obtain ⟨_, rfl⟩ := List.getElem?_eq_some_iff.mp here
  exact Fragment.render_balanced shown (balanced _ (List.mem_of_getElem? place))

theorem toList_conjunction {texts : List String} (several : 1 < texts.length) :
    (conjunction texts).toList =
      conjunctSeparator.intercalate ((texts.map String.toList).map grouped) := by
  rw [conjunction, if_pos several, String.toList_intercalate, List.map_map, List.map_map]
  congr 2
  funext text
  simp [grouped]

theorem topLevelParts_conjunction {texts : List String} (several : 1 < texts.length)
    (balanced : ∀ text ∈ texts, Balanced text.toList) :
    topLevelParts 0 (conjunction texts).toList = (texts.map String.toList).map grouped := by
  rw [toList_conjunction several]
  apply topLevelParts_intercalate
  · simpa using List.ne_nil_of_length_pos (Nat.lt_of_succ_lt several)
  · exact List.forall_mem_map.mpr balanced

namespace Draft

def paramsBefore (d : Draft) : Nat :=
  match d.kind with
  | .update => (Payload.written d.updatePayload).length
  | _ => 0

theorem whereClause_of_compiled {d : Draft} {q : Query} (compiled : d.compile = .ok q)
    (conditional : d.kind ≠ .insert) :
    ∃ front clause back, whereClause d.paramsBefore d.predicates = .ok clause ∧
      q.sql = front ++ clause ++ back := by
  unfold compile at compiled
  cases checked : d.check with
  | error reason => rw [checked] at compiled; cases compiled
  | ok =>
    rw [checked] at compiled
    unfold paramsBefore
    cases kind : d.kind with
    | insert => exact absurd kind conditional
    | select =>
      rw [kind] at compiled
      obtain ⟨clause, rendered, rfl⟩ := map_eq_ok_iff.mp compiled
      refine ⟨"SELECT " ++ (if d.columns.isEmpty then "*" else String.intercalate ", " d.columns) ++
        " FROM " ++ d.table, clause, orderClause d.ordering ++ countClause "LIMIT" d.limit ++
        countClause "OFFSET" d.offset, rendered, ?_⟩
      simp only [String.append_assoc]
    | update =>
      rw [kind] at compiled
      obtain ⟨clause, rendered, rfl⟩ := map_eq_ok_iff.mp compiled
      exact ⟨_, clause, "", rendered, String.append_empty.symm⟩
    | delete =>
      rw [kind] at compiled
      obtain ⟨clause, rendered, rfl⟩ := map_eq_ok_iff.mp compiled
      exact ⟨_, clause, "", rendered, String.append_empty.symm⟩

end Draft

/-- A condition, as it stands behind the keyword, falls apart into the conjuncts of the draft: one part
for each template, which is the template as rendered at its place, in parentheses. -/
structure Draft.FallsApart (d : Draft) (condition : String) : Prop where
  written : whereClause d.paramsBefore d.predicates = .ok (" WHERE " ++ condition)
  length : (topLevelParts 0 condition.toList).length = d.predicates.length
  part : ∀ (i : Nat) (f : Fragment), d.predicates[i]? = some f → ∃ text,
    f.render (d.paramsBefore + ((d.predicates.take i).flatMap Fragment.params).length) = .ok text ∧
      (topLevelParts 0 condition.toList)[i]? = some ("(" ++ text ++ ")").toList
  nothing : ∀ before column after,
    d = Draft.empty.applyAll (before ++ .whereIn column [] :: after) →
      (topLevelParts 0 condition.toList)[(before.filterMap Change.predicate?).length]? =
        some "(1=0)".toList

namespace Compiler

/-- The condition of a statement with several templates, each of them with parentheses that match, falls
apart into their conjuncts when it is cut at the separators outside all parentheses. -/
theorem conjuncts_stay_apart {d : Draft} {q : Query} (compiled : postgres d = .ok q)
    (conditional : d.kind ≠ .insert) (several : 1 < d.predicates.length)
    (balanced : ∀ f ∈ d.predicates, Balanced f.text.toList) :
    ∃ front condition back, q.sql = front ++ (" WHERE " ++ condition) ++ back ∧
      d.FallsApart condition := by
  obtain ⟨front, clause, back, written, text⟩ :=
    Draft.whereClause_of_compiled (Draft.compile_eq_ok_iff.mpr (postgres_eq_ok_iff.mp compiled))
      conditional
  have nonempty : d.predicates ≠ [] := List.ne_nil_of_length_pos (Nat.lt_of_succ_lt several)
  rw [whereClause, if_neg (by simpa using nonempty)] at written
  obtain ⟨texts, rendered, rfl⟩ := map_eq_ok_iff.mp written
  obtain ⟨length, each⟩ := render_of_renderAll rendered
  have parts := topLevelParts_conjunction (length ▸ several) (renderAll_balanced rendered balanced)
  refine ⟨front, conjunction texts, back, text, ?_, by simp [parts, length], ?_, ?_⟩
  · rw [whereClause, if_neg (by simpa using nonempty), rendered]
    rfl
  · intro i f place
    obtain ⟨text, here, shown⟩ := each i f place
    exact ⟨text, shown, by simp [parts, here, grouped]⟩
  · rintro before column after rfl
    have place : (Draft.empty.applyAll (before ++ .whereIn column [] :: after)).predicates[
        (before.filterMap Change.predicate?).length]? = some ⟨"1=0", []⟩ := by
      simp [Draft.predicates_applyAll, Draft.empty, Change.predicate?, Fragment.among]
    obtain ⟨text, here, shown⟩ := each _ _ place
    cases (Fragment.render_false _).symm.trans shown
    rw [parts, List.getElem?_map, List.getElem?_map, here]
    rfl

theorem conjuncts_stay_apart_of_update :
    let d := Draft.empty.applyAll [
      .table "t", .update (.ofWrites [("a", .null)]), .whereRaw "b = ? OR (c AND (d) AND e)" [.int 7],
      .whereIn "id" [], .whereRaw " AND f() = ?" [.text ") AND ("]]
    let q : Query :=
      ⟨"UPDATE t SET a = $1 WHERE (b = $2 OR (c AND (d) AND e)) AND (1=0) AND ( AND f() = $3)",
        [.null, .int 7, .text ") AND ("]⟩
    postgres d = .ok q ∧ d.kind ≠ .insert ∧ 1 < d.predicates.length ∧
      (∀ f ∈ d.predicates, Balanced f.text.toList) ∧
      ∃ front condition back, q.sql = front ++ (" WHERE " ++ condition) ++ back ∧
        d.FallsApart condition :=
  ⟨rfl, by decide, by decide, by decide,
    conjuncts_stay_apart rfl (by decide) (by decide) (by decide)⟩

end Compiler
end BoundSql
