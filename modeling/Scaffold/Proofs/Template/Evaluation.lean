import Scaffold.Proofs.Template.Library
import Scaffold.Template.Evaluation

/-! A template that refers to no other is evaluated the same with every library. Two evaluations of it that
start alike go through the same states, and never leave the template. -/

namespace Scaffold.Template

/-- Progress that has not left a template. -/
structure Progress.Within (progress : Progress) (template : Parsed) : Prop where
  frames : ∀ frame ∈ progress.frames, frame.template = template
  blocks : ∀ block ∈ progress.blocks, block.template = template

/-- Two libraries that show a template the same. -/
structure Twins where
  template : Parsed
  one : Library
  two : Library
  alike : one.Alike two template
  context : List (String × Value)

namespace Twins

/-- The setting in which a library renders the template. -/
def setting (twins : Twins) (library : Library) : Setting :=
  ⟨library, twins.context, twins.template, twins.template⟩

/-- One action with the first library does what another one does with the second, within the template. -/
def Agree (twins : Twins) {α : Type} (first second : Evaluated α) : Prop :=
  ∀ progress : Progress, progress.Within twins.template →
    (first.run (twins.setting twins.one)).run progress =
      (second.run (twins.setting twins.two)).run progress ∧
    ∀ value later, (first.run (twins.setting twins.one)).run progress = some (value, later) →
      later.Within twins.template

/-- An action that does the same with both libraries. -/
abbrev Same (twins : Twins) {α : Type} (action : Evaluated α) : Prop := twins.Agree action action

variable {twins : Twins} {α β : Type}

@[simp] theorem agree_pure (value : α) : twins.Same (pure value) := by
  refine fun progress within => ⟨rfl, fun value later done => ?_⟩
  cases done
  exact within

@[simp] theorem agree_failure : twins.Same (failure : Evaluated α) :=
  fun _ _ => ⟨rfl, fun _ _ done => by cases done⟩

theorem agree_failure_bind {next next' : α → Evaluated β} :
    twins.Agree (failure >>= next) (failure >>= next') :=
  fun _ _ => ⟨rfl, fun _ _ done => by cases done⟩

theorem Agree.bind {first second : Evaluated α} {next next' : α → Evaluated β}
    (start : twins.Agree first second) (rest : ∀ value, twins.Agree (next value) (next' value)) :
    twins.Agree (first >>= next) (second >>= next') := by
  intro progress within
  obtain ⟨same, stays⟩ := start progress within
  simp only [ReaderT.run_bind, StateT.run_bind, ← same]
  cases done : (first.run (twins.setting twins.one)).run progress with
  | none => exact ⟨rfl, fun _ _ done => by cases done⟩
  | some result => exact rest result.1 result.2 (stays _ _ done)

theorem agree_read {next next' : Setting → Evaluated β}
    (rest : twins.Agree (next (twins.setting twins.one)) (next' (twins.setting twins.two))) :
    twins.Agree (read >>= next) (read >>= next') :=
  fun progress within => rest progress within

theorem agree_get {next next' : Progress → Evaluated β}
    (rest : ∀ progress : Progress, progress.Within twins.template →
      twins.Agree (next progress) (next' progress)) :
    twins.Agree (get >>= next) (get >>= next') :=
  fun progress within => rest progress within progress within

theorem agree_modify {change : Progress → Progress}
    (keeps : ∀ progress : Progress, progress.Within twins.template →
      (change progress).Within twins.template) :
    twins.Same (modify change : Evaluated PUnit) := by
  refine fun progress within => ⟨rfl, fun value later done => ?_⟩
  cases done
  exact keeps progress within

theorem attempt_run (action : Evaluated α) (setting : Setting) (progress : Progress) :
    ((Evaluation.attempt action).run setting).run progress =
      match (action.run setting).run progress with
      | some (value, later) => some (some value, later)
      | none => some (none, progress) := by
  simp only [Evaluation.attempt, ReaderT.run_orElse, StateT.run_orElse, ReaderT.run_map, StateT.run_map]
  cases (action.run setting).run progress <;> rfl

theorem same_attempt {action : Evaluated α} (same : twins.Same action) :
    twins.Same (Evaluation.attempt action) := by
  intro progress within
  obtain ⟨same, stays⟩ := same progress within
  rw [attempt_run, attempt_run, ← same]
  cases done : (action.run (twins.setting twins.one)).run progress with
  | none => exact ⟨rfl, fun _ _ ended => by cases ended; exact within⟩
  | some result => exact ⟨rfl, fun _ _ ended => by cases ended; exact stays _ _ done⟩

theorem same_mapM {f : α → Evaluated β} {values : List α}
    (same : ∀ value ∈ values, twins.Same (f value)) : twins.Same (values.mapM f) := by
  induction values with
  | nil => simp
  | cons value rest ih =>
    rw [List.mapM_cons]
    exact (same value List.mem_cons_self).bind fun first =>
      (ih fun value member => same value (List.mem_cons_of_mem _ member)).bind fun later => agree_pure _

theorem same_foldlM {f : β → α → Evaluated β} {values : List α}
    (same : ∀ start value, twins.Same (f start value)) (start : β) :
    twins.Same (values.foldlM f start) := by
  induction values generalizing start with
  | nil => simp
  | cons value rest ih => exact (same start value).bind ih

/-! ### The constructs of a template -/

open Evaluation Evaluator

theorem same_referenced? (reference : Reference) : twins.Same (referenced? reference) := by
  refine agree_read (agree_get fun progress within => ?_)
  simp only [setting]
  split <;> simp

/-- The template that is active is the only one there is. -/
theorem agree_activeTemplate {next next' : Parsed → Evaluated α}
    (rest : twins.Agree (next twins.template) (next' twins.template)) :
    twins.Agree (activeTemplate >>= next) (activeTemplate >>= next') := by
  rw [activeTemplate, bind_assoc, bind_assoc]
  refine agree_get fun progress within => ?_
  cases frames : progress.frames with
  | nil =>
    simp only [bind_assoc, pure_bind]
    exact agree_read rest
  | cons frame outer =>
    have own := within.frames frame (by simp [frames])
    simpa only [pure_bind, own] using rest

theorem same_inFrame {frame : Frame} {action : Evaluated α} (own : frame.template = twins.template)
    (same : twins.Same action) : twins.Same (inFrame frame action) := by
  have entered : twins.Same
      (modify fun progress => { progress with frames := frame :: progress.frames } : Evaluated PUnit) :=
    agree_modify fun progress within =>
      ⟨List.forall_mem_cons.mpr ⟨own, within.frames⟩, within.blocks⟩
  have left : twins.Same
      (modify fun progress => { progress with frames := progress.frames.tail } : Evaluated PUnit) :=
    agree_modify fun progress within =>
      ⟨fun frame member => within.frames frame (List.mem_of_mem_tail member), within.blocks⟩
  exact entered.bind fun _ => same.bind fun result => left.bind fun _ => agree_pure result

/-- The template whose macros an expansion sees is the only one there is. -/
theorem agree_holder {next next' : Parsed → Evaluated α}
    (rest : twins.Agree (next twins.template) (next' twins.template)) {progress : Progress}
    (within : progress.Within twins.template) :
    twins.Agree
      (match progress.blocks with
        | block :: _ => pure block.template >>= next
        | [] =>
          if twins.template.name != twins.template.name then pure twins.template >>= next
          else activeTemplate >>= next)
      (match progress.blocks with
        | block :: _ => pure block.template >>= next'
        | [] =>
          if twins.template.name != twins.template.name then pure twins.template >>= next'
          else activeTemplate >>= next') := by
  cases blocks : progress.blocks with
  | nil => simpa using agree_activeTemplate rest
  | cons block outer =>
    have own := within.blocks block (by simp [blocks])
    simpa [own] using rest

theorem same_assign (everywhere : Bool) (name : String) (value : Value) :
    twins.Same (assign everywhere name value) := by
  have set : ∀ (frame : Frame) (rest : List Frame),
      (∀ other ∈ frame :: rest, other.template = twins.template) →
      ∀ other ∈ frame.set name value :: rest, other.template = twins.template := fun frame rest own =>
    List.forall_mem_cons.mpr (List.forall_mem_cons.mp own)
  refine agree_modify fun progress within => ⟨?_, within.blocks⟩
  cases everywhere with
  | false =>
    cases frames : progress.frames with
    | nil => simp
    | cons frame outer => simpa using set frame outer (frames ▸ within.frames)
  | true =>
    have turned : ∀ frame ∈ progress.frames.reverse, frame.template = twins.template :=
      fun frame member => within.frames frame (List.mem_reverse.mp member)
    cases frames : progress.frames.reverse with
    | nil => simp
    | cons outermost inside =>
      have own := set outermost inside (frames ▸ turned)
      simpa [frames, or_comm] using own

/-- Evaluators of nested constructs that do the same with both libraries. -/
structure Fits (twins : Twins) (inner : Evaluator) : Prop where
  value : ∀ expression, twins.Same (inner.value expression)
  truth : ∀ expression, twins.Same (inner.truth expression)
  number : ∀ expression, twins.Same (inner.number expression)
  body : ∀ nodes, twins.template.Holds nodes → twins.Same (inner.body nodes)

namespace Fits

-- Only expansions, blocks, inherited blocks and inclusions look into the library. The other constructs
-- are the same on both sides because the constructs inside them are.

variable {inner : Evaluator} (fits : twins.Fits inner)

include fits

theorem arguments (call : Call) : twins.Same (inner.arguments call) := by
  refine same_mapM fun key _ => ?_
  split
  · exact (fits.value _).bind fun value => agree_pure _
  · exact agree_failure

theorem function (call : Call) : twins.Same (inner.function call) := by
  refine (fits.arguments call).bind fun given => ?_
  split <;> simp

theorem filter (value : Value) (call : Call) : twins.Same (inner.filter value call) := by
  refine (fits.arguments call).bind fun given => ?_
  split <;> simp

theorem test (subject : Reference) (name : String) (given : List Expression) :
    twins.Same (inner.test subject name given) := by
  refine (same_mapM fun expression _ => fits.value expression).bind fun values =>
    (same_attempt (same_referenced? subject)).bind fun found => ?_
  split <;> simp

theorem membership (item container : Expression) : twins.Same (inner.membership item container) := by
  refine (fits.value item).bind fun item => (fits.value container).bind fun container => ?_
  split <;> simp

theorem concat (parts : List Operand) : twins.Same (inner.concat parts) := by
  refine (same_mapM fun part _ => ?_).bind fun texts => agree_pure _
  split
  case h_4 =>
    refine (fits.value _).bind fun value => ?_
    split <;> simp
  all_goals simp

theorem expansion (space : String) (call : Call) : twins.Same (inner.expansion space call) := by
  refine agree_read (agree_get fun progress within => agree_holder ?_ within)
  simp only [setting, twins.alike.symm.macro?_eq]
  cases found : twins.one.macro? twins.template space call.name with
  | none => exact agree_failure
  | some entry =>
    obtain ⟨own, holds⟩ := twins.alike.of_macro? found
    refine (same_mapM fun (name, fallback) _ => ?_).bind fun bindings =>
      (same_inFrame own (fits.body _ holds)).bind fun result => agree_pure _
    split
    · exact (fits.value _).bind fun value => agree_pure _
    · exact agree_failure

theorem fallback? {filters : List Call} {fallback : Evaluated Value}
    (given : inner.fallback? filters = some fallback) : twins.Same fallback := by
  unfold Evaluator.fallback? at given
  split at given
  · split at given
    · rw [← Option.some.inj given]
      split
      · exact fits.value _
      · exact agree_failure
    · contradiction
  · contradiction

theorem variableOr (reference : Reference) (negated : Bool) (filters : List Call) :
    twins.Same (inner.variableOr reference negated filters) := by
  refine (same_attempt (same_referenced? reference)).bind fun found => ?_
  cases fallback : inner.fallback? filters with
  | none => cases found <;> cases negated <;> simp
  | some stand =>
    have instead : twins.Same (do return some (← stand)) :=
      (fits.fallback? fallback).bind fun value => agree_pure _
    cases found with
    | none => exact instead
    | some value =>
      dsimp only
      split
      · exact instead
      · exact agree_pure _

theorem operand (expression : Expression) : twins.Same (inner.operand expression) := by
  rw [Evaluator.operand]
  cases expression.operand with
  | text | whole | fraction | flag => exact agree_pure _
  | «variable» reference => exact fits.variableOr reference expression.negated expression.filters
  | array items => exact (same_mapM fun item _ => fits.value item).bind fun values => agree_pure _
  | concat parts => exact (fits.concat parts).bind fun text => agree_pure _
  | math =>
    refine (fits.number _).bind fun number => ?_
    split <;> simp
  | compare | both | either => exact (fits.truth expression).bind fun answer => agree_pure _
  | membership negated item container =>
    exact (fits.membership item container).bind fun answer => agree_pure _
  | test subject negated name given =>
    exact (fits.test subject name given).bind fun answer => agree_pure _
  | call call => exact (fits.function call).bind fun value => agree_pure _
  | expansion space call => exact (fits.expansion space call).bind fun text => agree_pure _

theorem valueOf (expression : Expression) : twins.Same (inner.valueOf expression) := by
  refine (fits.operand expression).bind fun found => ?_
  cases found with
  | none => exact agree_pure _
  | some value => exact (same_foldlM fits.filter value).bind fun result => agree_pure _

theorem numberOf (expression : Expression) : twins.Same (inner.numberOf expression) := by
  unfold Evaluator.numberOf
  split
  · refine (fits.value expression).bind fun value => ?_
    split <;> simp
  · cases expression.operand with
    | whole | fraction => exact agree_pure _
    | math operator left right =>
      refine (fits.number left).bind fun left => (fits.number right).bind fun right => ?_
      split
      · split <;> simp
      · exact agree_pure _
    | «variable» reference =>
      refine (same_referenced? reference).bind fun value => ?_
      split <;> simp
    | call call =>
      refine (fits.function call).bind fun value => ?_
      split <;> simp
    | _ => exact agree_failure

theorem comparison (comparison : Comparison) (left right : Expression) :
    twins.Same (inner.comparison comparison left right) := by
  unfold Evaluator.comparison
  split
  · refine (fits.value left).bind fun left => (fits.value right).bind fun right => ?_
    split <;> simp
  · refine (fits.number left).bind fun left => (fits.number right).bind fun right => ?_
    split <;> simp

theorem truthOf (expression : Expression) : twins.Same (inner.truthOf expression) := by
  unfold Evaluator.truthOf
  cases expression.operand with
  | either left right =>
    refine (fits.truth left).bind fun answer => ?_
    cases answer with
    | true => exact agree_pure _
    | false => exact (fits.truth right).bind fun answer => agree_pure _
  | both left right =>
    refine (fits.truth left).bind fun answer => ?_
    cases answer with
    | true => exact (fits.truth right).bind fun answer => agree_pure _
    | false => exact agree_pure _
  | compare comparison left right =>
    refine (fits.comparison comparison left right).bind fun answer => ?_
    split <;> simp
  | «variable» =>
    refine (same_attempt (fits.value expression)).bind fun found => ?_
    split <;> simp
  | flag | text | array => exact agree_pure _
  | concat parts => exact (fits.concat parts).bind fun text => agree_pure _
  | membership opposite item container =>
    exact (fits.membership item container).bind fun answer => agree_pure _
  | test subject opposite name given =>
    exact (fits.test subject name given).bind fun answer => agree_pure _
  | call call =>
    refine (fits.function call).bind fun value => ?_
    split <;> simp
  | expansion space call => exact (fits.expansion space call).bind fun text => agree_pure _
  | whole | fraction | math =>
    refine (fits.number _).bind fun number => ?_
    split <;> simp

theorem items (container : Expression) : twins.Same (inner.items container) := by
  unfold Evaluator.items
  cases container.operand with
  | «variable» | call | array =>
    refine (fits.value container).bind fun value => ?_
    split <;> simp
  | _ => exact agree_failure_bind

theorem iterations (item : String) (length : Nat) {body : List Node} (holds : twins.template.Holds body)
    (values : List (Nat × Value)) :
    twins.Same (inner.iterations item length body twins.template values) := by
  induction values with
  | nil => exact agree_pure _
  | cons first rest ih =>
    obtain ⟨index, value⟩ := first
    rw [Evaluator.iterations]
    refine (same_inFrame rfl (fits.body body holds)).bind fun ended => ?_
    obtain ⟨text, flow⟩ := ended
    dsimp only
    split
    · exact agree_pure _
    · exact ih.bind fun more => agree_pure _

theorem loop (key : Option String) (item : String) (container : Expression) {body : List Node}
    {whenEmpty : Option (List Node)} (holds : twins.template.Holds body)
    (otherwise : ∀ nodes, whenEmpty = some nodes → twins.template.Holds nodes) :
    twins.Same (inner.loop key item container body whenEmpty) := by
  refine (fits.items container).bind fun items => ?_
  cases key with
  | some => exact agree_failure_bind
  | none =>
    cases items with
    | nil =>
      cases whenEmpty with
      | none => exact agree_pure _
      | some nodes => exact fits.body nodes (otherwise nodes rfl)
    | cons first rest =>
      exact agree_activeTemplate ((fits.iterations item _ holds _).bind fun text => agree_pure _)

theorem block (name : String) {body : List Node} (holds : twins.template.Holds body) :
    twins.Same (inner.block name body) := by
  refine agree_read (agree_activeTemplate ?_)
  simp only [setting, Library.ancestors_of_top _ twins.alike.top]
  cases found : twins.template.block? name with
  | none => simpa [Except.toOption, found] using fits.body body holds
  | some nodes =>
    have entered : ∀ active : ActiveBlock, active.template = twins.template → twins.Same
        (modify fun progress => { progress with blocks := active :: progress.blocks } : Evaluated PUnit) :=
      fun active own => agree_modify fun progress within =>
        ⟨within.frames, List.forall_mem_cons.mpr ⟨own, within.blocks⟩⟩
    have rendered := (entered ⟨name, twins.template, 0⟩ rfl).bind fun _ =>
      fits.body nodes (Parsed.holds_block found)
    simpa [Except.toOption, found] using rendered

omit fits in
/-- There is no template above. -/
theorem inheritedBlock : twins.Same inner.inheritedBlock := by
  refine agree_read (agree_get fun progress _ => ?_)
  simp only [setting, Library.ancestors_of_top _ twins.alike.top]
  cases progress.blocks <;> simp [Except.toOption]

theorem inclusion {names : List String} (listed : ∀ name ∈ names, name ∈ twins.template.references)
    (ignoreMissing : Bool) : twins.Same (inner.inclusion names ignoreMissing) := by
  refine agree_read ?_
  simp only [setting, ← twins.alike.findSome?_eq listed]
  cases found : names.findSome? twins.one.find? with
  | none => cases ignoreMissing <;> simp
  | some template =>
    have own := twins.alike.of_findSome? listed found
    exact same_inFrame own (fits.body _ (own ▸ template.holds_body))

theorem node {node : Node} (listed : ∀ name ∈ Parsed.inclusionsIn node, name ∈ twins.template.references) :
    twins.Same (inner.node node) := by
  cases node with
  | text | raw | comment | importMacros | stopLoop | nextItem => exact agree_pure _
  | extension | definition => exact agree_failure
  | output expression => exact (fits.value expression).bind fun value => agree_pure _
  | inherited => exact inheritedBlock
  | inclusion names ignoreMissing => exact fits.inclusion listed ignoreMissing
  | assign everywhere name expression =>
    exact (fits.value expression).bind fun value =>
      (same_assign everywhere name value).bind fun _ => agree_pure _
  | block name body => exact fits.block name listed
  | filtered filter body =>
    refine (fits.body body listed).bind fun ended => ?_
    obtain ⟨text, flow⟩ := ended
    dsimp only
    split
    · exact agree_pure _
    · exact (fits.filter (.text text) filter).bind fun value => agree_pure _
  | loop key item container body whenEmpty =>
    refine fits.loop key item container (fun name included => listed name ?_) fun nodes some name included =>
      listed name ?_
    · exact List.mem_append_left _ included
    · rw [some]
      exact List.mem_append_right _ included
  | branch condition body otherwise =>
    refine (fits.truth condition).bind fun answer => ?_
    cases answer with
    | true => exact fits.body body fun name included => listed name (List.mem_append_left _ included)
    | false => exact fits.body otherwise fun name included => listed name (List.mem_append_right _ included)

theorem bodyOf {nodes : List Node} (holds : twins.template.Holds nodes) :
    twins.Same (inner.bodyOf nodes) := by
  induction nodes with
  | nil => exact agree_pure _
  | cons first rest ih =>
    rw [Evaluator.bodyOf]
    have start := fits.node fun name included => holds name (List.mem_append_left _ included)
    refine start.bind fun ended => ?_
    obtain ⟨text, flow⟩ := ended
    dsimp only
    split
    · exact agree_pure _
    · exact (ih fun name included => holds name (List.mem_append_right _ included)).bind fun more =>
        agree_pure _

end Fits

/-- One level of evaluators after another. -/
theorem fits_level (twins : Twins) (depth : Nat) : twins.Fits (level depth) := by
  induction depth with
  | zero => exact ⟨fun _ => agree_failure, fun _ => agree_failure, fun _ => agree_failure,
      fun _ _ => agree_failure⟩
  | succ depth fits => exact ⟨fits.valueOf, fits.truthOf, fits.numberOf, fun _ => fits.bodyOf⟩

end Twins

/-- A template that refers to no other has the same text in every library that has it. -/
theorem Library.Alike.text?_eq {one two : Library} {template : Parsed} (alike : Library.Alike one two template)
    (first : one.find? template.name = some template) (second : two.find? template.name = some template)
    (context : List (String × Value)) : one.text? template.name context = two.text? template.name context := by
  obtain ⟨same, -⟩ := (Twins.fits_level ⟨template, one, two, alike, context⟩ Evaluator.depthLimit).body
    template.body template.holds_body ⟨[⟨template, [], none, true⟩], []⟩ ⟨by simp, by simp⟩
  simp only [Twins.setting] at same
  simp only [Library.text?, first, second, Option.bind_eq_bind, Option.bind_some,
    ancestors_of_top _ alike.top, Except.toOption, List.getLast?_nil, Option.getD_none, same]

theorem Library.Alike.render_eq {one two : Library} {template : Parsed} (alike : Library.Alike one two template)
    (first : one.find? template.name = some template) (second : two.find? template.name = some template)
    (context : List (String × Value)) :
    one.render template.name context = two.render template.name context := by
  rw [Library.render, Library.render, alike.text?_eq first second]

theorem Library.find?_of_render {library : Library} {name : String} {context : List (String × Value)}
    {text : String} (rendered : library.render name context = .ok text) :
    ∃ template, library.find? name = some template := by
  cases found : library.find? name with
  | none => simp [Library.render, Library.text?, found] at rendered
  | some template => exact ⟨template, rfl⟩

end Scaffold.Template
