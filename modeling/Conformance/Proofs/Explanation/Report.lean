import Conformance.Proofs.Check.Fields
import Conformance.Proofs.Explanation.Faults
import Conformance.Proofs.Explanation.Writable
import Conformance.Proofs.Json.Characters
import Conformance.Proofs.Text.Lines

/-!
# The lines of a report

A report is meant to have a line for each failure.  What is written of schemas and values is JSON text,
which stays in its line.  The keys in a path are not: **a line feed in a key is written as it is**, and
takes the rest of the failure to a new line (`Failure.lineFeeds_line`).

So `report_lines` counts the lines of a report exactly, and says when they are those of the failures:
if no path has a line feed in it, and only then.  Paths are made of indices and declared keys
(`Failure.token_of_mem`), so that a schema without line feeds in its keys has reports as they are meant
to be.
-/

namespace Conformance

open Text

/-! ## Line feeds in a line -/

namespace Failure

/-- How many line feeds the path of a failure has in its tokens. -/
def lineFeeds (failure : Failure) : Nat :=
  (failure.path.tokens.map Text.lineFeeds).sum

end Failure

namespace Pointer

lemma count_escape (cs : List Char) : (cs.flatMap escape).count '\n' = cs.count '\n' := by
  induction cs with
  | nil => rfl
  | cons c rest ih =>
    have here : (escape c).count '\n' = [c].count '\n' := by
      rw [escape]
      split
      · subst c; rfl
      · split
        · subst c; rfl
        · rfl
    rw [List.flatMap_cons, List.count_append, ih, here, ← List.count_append, List.singleton_append]

/-- What is escaped in a pointer is not the line feed. -/
lemma lineFeeds_write (pointer : Pointer) :
    Text.lineFeeds pointer.write = (pointer.tokens.map Text.lineFeeds).sum := by
  rw [Text.lineFeeds, write, String.toList_ofList]
  induction pointer.tokens with
  | nil => rfl
  | cons token rest ih =>
    have here : (writeToken token).count '\n' = Text.lineFeeds token := by
      rw [writeToken, List.count_cons_of_ne (by decide), count_escape, Text.lineFeeds]
    rw [List.flatMap_cons, List.count_append, ih, here, List.map_cons, List.sum_cons]

end Pointer

namespace Failure

lemma lineFeeds_place (path : Pointer) :
    Text.lineFeeds (place path) = (path.tokens.map Text.lineFeeds).sum := by
  rw [place]
  split
  · rename_i empty
    rw [List.isEmpty_iff.1 empty]
    rfl
  · exact path.lineFeeds_write

lemma lineFeeds_found (value : Option Value) :
    Text.lineFeeds ((value.map Value.typeName).getD "nothing") = 0 := by
  rcases value with _ | value
  · rfl
  · cases value <;> (rw [Option.map_some, Option.getD_some, Value.typeName]; rfl)

lemma lineFeeds_display (value : Value) : Text.lineFeeds value.display = 0 := by
  rw [Value.display]
  split
  · rfl
  · exact (Json.noControls_write _).count_lineFeed

lemma lineFeeds_schema {schema : Schema} {text : String} (written : schema.text = .ok text) :
    Text.lineFeeds text = 0 := by
  obtain ⟨j, -, rfl⟩ := map_eq_ok_iff.1 written
  exact (Json.noControls_write j).count_lineFeed

/-- **What is said behind the path has no line feeds.** -/
lemma lineFeeds_complaint {f : Failure} {text : String} (written : f.complaint = .ok text) :
    Text.lineFeeds text = 0 := by
  obtain ⟨path, kind, value, schema⟩ := f
  cases kind with
  | typeMismatch =>
    obtain ⟨expected, named, ⟨⟩⟩ := bind_eq_ok_iff.1 written
    rw [lineFeeds_append, lineFeeds_append, lineFeeds_schema named]
    cases value with
    | none => rfl
    | some value =>
      rw [Option.map_some, Option.getD_some, lineFeeds_append, lineFeeds_display]
      rfl
  | notAnObject =>
    cases written
    rw [lineFeeds_append, lineFeeds_found]
    rfl
  | notAnArray =>
    cases written
    rw [lineFeeds_append, lineFeeds_found]
    rfl
  | missingRequiredKey => cases written; rfl
  | noAlternativeMatched => cases written; rfl
  | intersectionMemberFailed => cases written; rfl

/-- **A line has the line feeds of its path.** -/
lemma lineFeeds_line {f : Failure} {text : String} (written : f.line = .ok text) :
    Text.lineFeeds text = f.lineFeeds := by
  obtain ⟨complaint, complained, ⟨⟩⟩ := bind_eq_ok_iff.1 written
  rw [lineFeeds_append, lineFeeds_append, lineFeeds_place, lineFeeds_complaint complained]
  rfl

/-- A text is the line of a failure. -/
def Says (f : Failure) (text : String) : Prop :=
  f.line = .ok text

end Failure

/-! ## The tokens of a path -/

/-- A token is a key that a schema mentions, or an index. -/
def Schema.HasToken (schema : Schema) (token : String) : Prop :=
  token ∈ schema.mentioned ∨ ∃ i : Nat, token = (Step.index i).token

lemma Schema.HasToken.of_demand {schema inner : Schema} {value part : Value} {step : Option Step}
    {token : String} (has : inner.HasToken token)
    (wanted : .part step inner part ∈ schema.demands value) : schema.HasToken token :=
  has.imp_left fun mentioned => mentioned_subset_of_demand wanted mentioned

/-- The step to a part takes a key of the schema or an index. -/
lemma Pointer.token_of_along {schema inner : Schema} {value part : Value} {step : Option Step}
    {path : Pointer} {token : String} (wanted : .part step inner part ∈ schema.demands value)
    (mem : token ∈ (path.along step).tokens) : token ∈ path.tokens ∨ schema.HasToken token := by
  cases Schema.wants_of_mem_demands wanted with
  | field declared present =>
    refine (List.mem_append.1 mem).imp_right fun last => Or.inl ?_
    rw [List.mem_singleton.1 last]
    exact Schema.mem_mentioned_of_mem declared
  | alternative value listed => exact Or.inl mem
  | part value listed => exact Or.inl mem
  | element found =>
    exact (List.mem_append.1 mem).imp_right fun last => Or.inr ⟨_, List.mem_singleton.1 last⟩

/-- **A path is made of what was there, declared keys and indices.** -/
lemma Failure.token_of_mem {schema : Schema} {value : Value} {e : Explanation} {path : Pointer}
    {f : Failure} {token : String} (explained : schema.explain value = some e)
    (mem : f ∈ e.failuresAt path) (inPath : token ∈ f.path.tokens) :
    token ∈ path.tokens ∨ schema.HasToken token := by
  induction schema, value using Schema.demand_induction generalizing e path with
  | weigh schema value ih =>
    rcases cases_of_mem_failuresAt explained mem with
      ⟨rfl, -⟩ | ⟨key, wanted, rfl⟩ | ⟨step, inner, part, why, wanted, inside, mem⟩
    · exact Or.inl inPath
    · cases Schema.wants_of_mem_demands wanted with
      | missing declared required absent =>
        refine (List.mem_append.1 inPath).imp_right fun last => Or.inl ?_
        rw [List.mem_singleton.1 last]
        exact Schema.mem_mentioned_of_mem declared
    · rcases ih step inner part wanted inside mem with before | has
      · exact Pointer.token_of_along wanted before
      · exact Or.inr (has.of_demand wanted)

lemma Step.lineFeeds_index (i : Nat) : Text.lineFeeds (index i).token = 0 := by
  rw [token, Text.lineFeeds, String.toList_ofList]
  exact (Decimal.noControls_digitsOf i).count_lineFeed

/-- Without line feeds in keys there are none in paths. -/
lemma Failure.lineFeeds_of_mentioned {schema : Schema} {value : Value} {e : Explanation}
    (explained : schema.explain value = some e)
    (unbroken : ∀ key ∈ schema.mentioned, Text.lineFeeds key = 0) :
    ∀ f ∈ e.failures, f.lineFeeds = 0 := by
  intro f mem
  refine List.sum_eq_zero_iff_forall_eq_nat.2 (List.forall_mem_map.2 fun token inPath => ?_)
  rcases token_of_mem explained mem inPath with atRoot | mentioned | ⟨i, rfl⟩
  · cases atRoot
  · exact unbroken token mentioned
  · exact Step.lineFeeds_index i

/-! ## Reports -/

/-- The report is made of the lines of the failures. -/
lemma Explanation.exists_lines_of_report {e : Explanation} {text : String}
    (reported : e.report = .ok text) :
    ∃ lines, List.Forall₂ Failure.Says e.failures lines ∧ text = "\n".intercalate lines := by
  obtain ⟨lines, whole, ⟨⟩⟩ := bind_eq_ok_iff.1 reported
  rw [Failure.lines_eq_mapM, mapM_eq_ok_iff] at whole
  exact ⟨lines, whole, rfl⟩

/-- Lines that failures say have the line feeds of the failures. -/
lemma Failure.map_lineFeeds_of_says {failures : List Failure} {lines : List String}
    (said : List.Forall₂ Says failures lines) :
    lines.map Text.lineFeeds = failures.map lineFeeds :=
  (map_eq_map_of_forall₂ said fun _ _ written => (lineFeeds_line written).symm).symm

/-- What a list of failures says is one list of lines. -/
lemma Failure.lines_unique {failures : List Failure} {lines others : List String}
    (said : List.Forall₂ Says failures lines) (again : List.Forall₂ Says failures others) :
    lines = others :=
  Except.ok.inj ((mapM_eq_ok_iff.2 said).symm.trans (mapM_eq_ok_iff.2 again))

/-- **The lines of a report.**  The report is made of a line for each failure, in order, and the text
has these lines and nothing else if no path has a line feed in it.  Otherwise it has one line more for
each of these line feeds.  If no declared key has a line feed, then no path has one. -/
theorem report_lines (schema : Schema) (value : Value) (e : Explanation) (text : String)
    (explained : schema.explain value = some e) (reported : e.report = .ok text) :
    (∃ lines, List.Forall₂ Failure.Says e.failures lines ∧
      Text.lines text = lines.flatMap Text.lines) ∧
    (Text.lines text).length = e.failures.length + (e.failures.map Failure.lineFeeds).sum ∧
    (List.Forall₂ Failure.Says e.failures (Text.lines text) ↔
      ∀ f ∈ e.failures, f.lineFeeds = 0) ∧
    ((∀ key ∈ schema.mentioned, Text.lineFeeds key = 0) →
      List.Forall₂ Failure.Says e.failures (Text.lines text)) := by
  obtain ⟨lines, said, rfl⟩ := Explanation.exists_lines_of_report reported
  have nonempty : lines ≠ [] := by
    rintro rfl
    exact Explanation.failuresAt_ne_nil explained .root (List.forall₂_nil_right_iff.1 said)
  have split := Text.lines_intercalate nonempty
  have each := Failure.map_lineFeeds_of_says said
  have unbroken_iff : (∀ line ∈ lines, Text.lineFeeds line = 0) ↔
      ∀ f ∈ e.failures, f.lineFeeds = 0 := by
    rw [← List.forall_mem_map (P := fun n => n = 0), each, List.forall_mem_map]
  have kept : List.Forall₂ Failure.Says e.failures (Text.lines ("\n".intercalate lines)) ↔
      ∀ f ∈ e.failures, f.lineFeeds = 0 := by
    rw [split, ← unbroken_iff, ← Text.flatMap_lines_eq_iff]
    constructor
    · exact fun again => Failure.lines_unique again said
    · intro same
      rwa [same]
  refine ⟨⟨lines, said, split⟩, ?_, kept, fun unbroken => ?_⟩
  · rw [split, Text.length_flatMap_lines, each, said.length_eq]
  · exact kept.2 (Failure.lineFeeds_of_mentioned explained unbroken)

/-- A key with a line feed beside one without: two failures in three lines. -/
theorem report_lines_of_broken_key :
    ∃ e text, (Schema.object [("a\nb", ⟨.primitive .string, true⟩),
        ("c", ⟨.primitive .null, true⟩)]).explain (.object [("c", .bool true)]) = some e ∧
      e.report = .ok text ∧ e.failures.length = 2 ∧ (Text.lines text).length = 3 := by
  have explained : (Schema.object [("a\nb", ⟨.primitive .string, true⟩),
      ("c", ⟨.primitive .null, true⟩)]).explain (.object [("c", .bool true)]) = some _ := rfl
  refine ⟨_, _, explained, rfl, rfl, ?_⟩
  obtain ⟨-, count, -⟩ := report_lines _ _ _ _ explained rfl
  exact count.trans (by decide)

/-- One failure in two lines. -/
theorem report_breaks_in_key :
    ∃ e text, (Schema.object [("a\nb", ⟨.primitive .string, true⟩)]).explain (.object []) = some e ∧
      e.report = .ok text ∧ Text.lines text = ["/a", "b: missing required key"] ∧
      e.failures.length = 1 ∧ ¬ List.Forall₂ Failure.Says e.failures (Text.lines text) := by
  have explained : (Schema.object [("a\nb", ⟨.primitive .string, true⟩)]).explain (.object []) =
    some _ := rfl
  refine ⟨_, _, explained, rfl, by decide, rfl, fun said => ?_⟩
  exact absurd said.length_eq (by decide)

end Conformance
