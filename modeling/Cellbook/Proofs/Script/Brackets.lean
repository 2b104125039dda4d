import Mathlib
import Cellbook.Cell.Balance
import Cellbook.Script.Parse

/-!
# Brackets in scripts

A reader that succeeds closes the brackets that it opens.  For each rule of the grammar there is a
triple that tells how many brackets are open before it and after it (`Takes`): as many, but for the
readers that begin after an opening bracket and end with the closing one.

None of them passes a lexical fault: it throws the fault, or one of its own in its place.
-/

set_option mvcgen.warning false

open Std.Do

namespace Cellbook.Script

/-- The number of open brackets after a token. -/
def Token.depthAfter (depth : Nat) : Token → Nat
  | symbol spelling => spelling.toList.foldl Cell.depthAfter depth
  | _ => depth

/-- Whether a token is a lexical fault. -/
def Token.isFault : Token → Bool
  | fault _ => true
  | _ => false

/-- The number of open brackets after tokens. -/
def depthAfterAll (depth : Nat) (tokens : List Placed) : Nat :=
  tokens.foldl (fun depth placed => placed.token.depthAfter depth) depth

/-- Whether `ahead` is what is left of `tokens` after some that are no faults and leave `depth`
brackets open. -/
def Passed (tokens : List Placed) (depth : Nat) (ahead : List Placed) : Prop :=
  ∃ taken, tokens = taken ++ ahead ∧ (∀ placed ∈ taken, placed.token.isFault = false) ∧
    depthAfterAll 0 taken = depth

theorem Passed.refl (tokens : List Placed) : Passed tokens 0 tokens :=
  ⟨[], rfl, nofun, rfl⟩

/-- The next token is passed. -/
theorem Passed.next {tokens ahead : List Placed} {depth before after : Nat} {token : Token}
    (h : Passed tokens depth ahead) (hbefore : depth = before)
    (htoken : (ahead.headD ⟨.done, .start⟩).token = token) (hfault : token.isFault = false)
    (hafter : token.depthAfter before = after) : Passed tokens after (ahead.drop 1) := by
  obtain ⟨taken, rfl, hfaults, rfl⟩ := h
  subst htoken hbefore hafter
  cases ahead with
  | nil => exact ⟨taken, rfl, hfaults, rfl⟩
  | cons placed ahead =>
      refine ⟨taken ++ [placed], by simp, ?_, by simp [depthAfterAll]⟩
      intro other hother
      rcases List.mem_append.mp hother with hother | hother
      · exact hfaults other hother
      · rw [List.mem_singleton.mp hother]
        exact hfault

namespace Grammar

variable {tokens : List Placed} {parts : Parts} {α σ : Type}

/-- A reader that comes this far with `before` brackets open and succeeds leaves `after` open. -/
abbrev Takes (tokens : List Placed) (before after : Nat) (read : Read α) : Prop :=
  ⦃fun s => ⌜Passed tokens before s.tokens⌝⦄ read ⦃⇓? _ s => ⌜Passed tokens after s.tokens⌝⦄

/-- What a triple says of a reader that has succeeded. -/
theorem of_run_eq {read : Read α} {pre : State → Prop} {post : α → State → Prop}
    (h : ⦃fun s => ⌜pre s⌝⦄ read ⦃⇓? a s => ⌜post a s⌝⦄) {s s' : State} {a : α} (hs : pre s)
    (hrun : read.run s = .ok a s') : post a s' := by
  have hwp := h s hs
  simp only [wp, PredTrans.apply] at hwp
  rw [hrun] at hwp
  exact hwp

/-- Readers for what is nested inside a construct that close the brackets they open. -/
structure Neutral (tokens : List Placed) (parts : Parts) : Prop where
  expression (context : Context) (depth : Nat) :
    Takes tokens depth depth (parts.expression context)
  statement (context : Context) (depth : Nat) :
    Takes tokens depth depth (parts.statement context)
  compound (context : Context) (depth : Nat) :
    Takes tokens depth depth (parts.compound context)
  block (context : Context) (depth : Nat) :
    Takes tokens depth depth (parts.block context)

/-! ## Single tokens -/

variable (tokens)

theorem isSymbol_iff {spelling : String} {placed : Placed} :
    isSymbol spelling placed = true ↔ placed.token = .symbol spelling := by
  unfold isSymbol
  split
  · next h => simp [h]
  · next h => simpa using h spelling

attribute [spec] peek next fail failMissing Context.deeper

theorem takes_expect (spelling : String) (before after : Nat)
    (hdepth : (Token.symbol spelling).depthAfter before = after) (purpose : String) :
    Takes tokens before after (expect spelling purpose) := by
  mvcgen [expect]
  all_goals exact Passed.next ‹_› rfl (isSymbol_iff.mp ‹_›) rfl hdepth

theorem accept_spec (spelling : String) (before after : Nat)
    (hdepth : (Token.symbol spelling).depthAfter before = after) :
    ⦃fun s => ⌜Passed tokens before s.tokens⌝⦄ accept spelling
    ⦃⇓? accepted s => ⌜Passed tokens (if accepted then after else before) s.tokens⌝⦄ := by
  mvcgen [accept, sees]
  all_goals exact Passed.next ‹_› rfl (isSymbol_iff.mp ‹_›) rfl hdepth

theorem takes_accept (spelling : String) (depth : Nat)
    (hdepth : (Token.symbol spelling).depthAfter depth = depth) :
    Takes tokens depth depth (accept spelling) := by
  have haccept := accept_spec tokens spelling depth depth hdepth
  simpa only [ite_self] using haccept

theorem takes_variableName (depth : Nat) : Takes tokens depth depth variableName := by
  mvcgen [variableName]
  all_goals exact Passed.next ‹_› rfl ‹_› rfl rfl

theorem takes_refuseEnd (closing purpose : String) (found : Placed) (depth : Nat) :
    Takes tokens depth depth (refuseEnd closing purpose found) := by
  mvcgen [refuseEnd]

/-- The next token is passed where it is one of two symbols. -/
theorem passed_next_or {ahead : List Placed} {before after : Nat} {first second : String}
    (h : Passed tokens before ahead)
    (hsymbol : (isSymbol first (ahead.headD ⟨.done, .start⟩) ||
      isSymbol second (ahead.headD ⟨.done, .start⟩)) = true)
    (hfirst : (Token.symbol first).depthAfter before = after)
    (hsecond : (Token.symbol second).depthAfter before = after) :
    Passed tokens after (ahead.drop 1) := by
  rcases Bool.or_eq_true_iff.mp hsymbol with hsymbol | hsymbol
  · exact h.next rfl (isSymbol_iff.mp hsymbol) rfl hfirst
  · exact h.next rfl (isSymbol_iff.mp hsymbol) rfl hsecond

/-! ## Scopes and repetition -/

theorem takes_noteUse (name : String) (position : Position) (depth : Nat) :
    Takes tokens depth depth (noteUse name position) := by
  mvcgen [noteUse, findLocal?]

variable {tokens}

theorem takes_enclosed {read : Read α} {before after : Nat} (h : Takes tokens before after read) :
    Takes tokens before after (enclosed read) := by
  mvcgen [enclosed, h]

theorem takes_framed (names : List String) {read : Read α} {before after : Nat}
    (h : Takes tokens before after read) : Takes tokens before after (framed names read) := by
  mvcgen [framed, h]

theorem takes_forM {read : σ → Read PUnit} {depth : Nat}
    (hread : ∀ item, Takes tokens depth depth (read item)) (items : List σ) :
    Takes tokens depth depth (items.forM read) := by
  induction items with
  | nil => mvcgen
  | cons item items ih =>
      change Takes tokens depth depth (read item >>= fun _ => items.forM read)
      mvcgen [hread, ih]

/-- What every step keeps that goes on holds until one gives a result. -/
theorem repeatUntil_spec {step : σ → Read (Sum σ α)} {during after : State → Prop}
    (hstep : ∀ state, ⦃fun s => ⌜during s⌝⦄ step state
      ⦃⇓? outcome s => ⌜outcome.elim (fun _ => during) (fun _ => after) s⌝⦄)
    (fuel : Nat) (state : σ) :
    ⦃fun s => ⌜during s⌝⦄ repeatUntil step fuel state ⦃⇓? _ s => ⌜after s⌝⦄ := by
  induction fuel generalizing state with
  | zero => mvcgen [repeatUntil]
  | succ fuel ih => mvcgen [repeatUntil, hstep, ih]

theorem iterate_spec {step : σ → Read (Sum σ α)} {during after : State → Prop}
    (hstep : ∀ state, ⦃fun s => ⌜during s⌝⦄ step state
      ⦃⇓? outcome s => ⌜outcome.elim (fun _ => during) (fun _ => after) s⌝⦄)
    (state : σ) : ⦃fun s => ⌜during s⌝⦄ iterate step state ⦃⇓? _ s => ⌜after s⌝⦄ := by
  have hrepeat := repeatUntil_spec hstep
  mvcgen [iterate, hrepeat]

theorem takes_iterate {step : σ → Read (Sum σ α)} {within after : Nat}
    (hstep : ∀ state, ⦃fun s => ⌜Passed tokens within s.tokens⌝⦄ step state
      ⦃⇓? outcome s => ⌜Passed tokens (outcome.elim (fun _ => within) fun _ => after) s.tokens⌝⦄)
    (state : σ) : Takes tokens within after (iterate step state) := by
  refine iterate_spec (fun state => ?_) state
  have hnext := hstep state
  mvcgen [hnext]
  rename_i outcome _
  cases outcome <;> exact id

theorem takes_separated {closing : String} {before : List α → Placed → Read Unit}
    {item : List α → Read α} {between : Placed → Read Unit} {depth : Nat}
    (hclosing : (Token.symbol closing).depthAfter (depth + 1) = depth)
    (hbefore : ∀ items found, Takes tokens (depth + 1) (depth + 1) (before items found))
    (hitem : ∀ items, Takes tokens (depth + 1) (depth + 1) (item items))
    (hbetween : ∀ found, Takes tokens (depth + 1) (depth + 1) (between found)) :
    Takes tokens (depth + 1) depth (separated closing before item between) := by
  have haccept := accept_spec tokens closing (depth + 1) depth hclosing
  have hcomma := takes_accept tokens "," (depth + 1) rfl
  refine takes_iterate (fun items => ?_) []
  mvcgen [haccept, hbefore, hitem, hcomma, hbetween]
  all_goals simp_all

/-! ## Expressions -/

variable (tokens) in
theorem takes_refuseForms (expected : String) (wrong : List String) (e : Expr) (depth : Nat) :
    Takes tokens depth depth (refuseForms expected wrong e) := by
  mvcgen [refuseForms]

variable (tokens) in
theorem takes_checkIndex (base index : Expr) (depth : Nat) :
    Takes tokens depth depth (checkIndex base index) := by
  unfold checkIndex
  dsimp only
  split
  · split
    all_goals mvcgen
  · split
    · split
      · mvcgen
      · split
        all_goals mvcgen
    · mvcgen
  · mvcgen

theorem takes_arguments (h : Neutral tokens parts) (context : Context) (function : String)
    (opening : Position) (depth : Nat) :
    Takes tokens (depth + 1) depth (arguments parts context function opening) := by
  have hexpression := h.expression
  refine takes_separated rfl ?_ ?_ ?_
  · intro items found
    mvcgen [refuseEnd]
  · intro items
    mvcgen [hexpression]
  · intro found
    mvcgen

theorem takes_arguments? (h : Neutral tokens parts) (context : Context) (function : String)
    (depth : Nat) : Takes tokens depth depth (arguments? parts context function) := by
  have hempty := takes_accept tokens "()" depth rfl
  have hopening := accept_spec tokens "(" depth (depth + 1) rfl
  have harguments := fun position => takes_arguments h context function position depth
  mvcgen [arguments?, hempty, hopening, harguments]
  all_goals simp_all

theorem takes_arrayItems (h : Neutral tokens parts) (context : Context) (depth : Nat) :
    Takes tokens (depth + 1) depth (arrayItems parts context) := by
  refine takes_separated rfl ?_ (fun _ => h.expression context _) ?_
  · exact fun _ found => takes_refuseEnd tokens _ _ found _
  · intro found
    mvcgen

theorem takes_mapEntry (h : Neutral tokens parts) (context : Context)
    (items : List (String × Expr)) (depth : Nat) :
    Takes tokens depth depth (mapEntry parts context items) := by
  have hcolon := takes_expect tokens ":" depth depth rfl
  have hexpression := fun context => h.expression context depth
  mvcgen [mapEntry, hcolon, hexpression]
  all_goals exact Passed.next ‹_› rfl ‹_› rfl rfl

theorem takes_mapEntries (h : Neutral tokens parts) (context : Context) (depth : Nat) :
    Takes tokens (depth + 1) depth (mapEntries parts context) := by
  refine takes_separated rfl ?_ (fun items => takes_mapEntry h context items _) ?_
  · exact fun _ found => takes_refuseEnd tokens _ _ found _
  · intro found
    mvcgen

theorem takes_embeddedSegments (h : Neutral tokens parts) (context : Context) (depth : Nat) :
    Takes tokens depth depth (embeddedSegments parts context) := by
  have hblock := fun context => h.block context depth
  refine takes_iterate (fun segments => ?_) []
  mvcgen [hblock]
  all_goals exact Passed.next ‹_› rfl ‹_› rfl rfl

variable (tokens) in
theorem takes_closureParameters (depth : Nat) :
    Takes tokens depth depth closureParameters := by
  have hbar := takes_accept tokens "|" depth rfl
  have hcomma := takes_expect tokens "," depth depth rfl
  refine takes_iterate (fun names => ?_) []
  mvcgen [hbar, hcomma]
  all_goals exact Passed.next ‹_› rfl ‹_› rfl rfl

theorem takes_closure (h : Neutral tokens parts) (context : Context) (parameters : List String)
    (position : Position) (depth : Nat) :
    Takes tokens depth depth (closure parts context parameters position) := by
  have hbody := fun context => takes_framed parameters (h.statement context depth)
  have hnotes := takes_forM fun (capture : String × Position) =>
    takes_noteUse tokens capture.1 capture.2 depth
  mvcgen [closure, hbody, hnotes]

theorem takes_afterName (h : Neutral tokens parts) (context : Context) (name : String)
    (position : Position) (depth : Nat) :
    Takes tokens depth depth (afterName parts context name position) := by
  have hmark := takes_accept tokens "!" depth rfl
  have harguments := fun name => takes_arguments? h context name depth
  have hnote := fun name position => takes_noteUse tokens name position depth
  mvcgen [afterName, hmark, harguments, hnote, findLocal?]

theorem takes_afterReserved (h : Neutral tokens parts) (context : Context) (word : String)
    (position : Position) (depth : Nat) :
    Takes tokens depth depth (afterReserved parts context word position) := by
  have harguments := fun word => takes_arguments? h context word depth
  unfold afterReserved
  dsimp only
  split
  all_goals mvcgen [harguments]

theorem takes_operand (h : Neutral tokens parts) (context : Context) (depth : Nat) :
    Takes tokens depth depth (operand parts context) := by
  have hinner := fun context => h.expression context (depth + 1)
  have hclosing := takes_expect tokens ")" (depth + 1) depth rfl
  have hcompound := fun context => h.compound context depth
  have hsegments := fun context => takes_embeddedSegments h context depth
  have hitems := fun context => takes_arrayItems h context depth
  have hentries := fun context => takes_mapEntries h context depth
  have hname := fun context name position => takes_afterName h context name position depth
  have hreserved := fun context word position => takes_afterReserved h context word position depth
  have hparameters := takes_closureParameters tokens depth
  have hclosure := fun context names position => takes_closure h context names position depth
  mvcgen [operand, hinner, hclosing, hcompound, hsegments, hitems, hentries, hname, hreserved,
    hparameters, hclosure]
  all_goals exact Passed.next ‹_› rfl ‹_› rfl rfl

theorem takes_memberStep (h : Neutral tokens parts) (context : Context) (optional : Bool)
    (depth : Nat) : Takes tokens depth depth (memberStep parts context optional) := by
  have harguments := fun name => takes_arguments? h context name depth
  mvcgen [memberStep, harguments]
  all_goals exact Passed.next ‹_› rfl ‹_› rfl rfl

theorem takes_steps (h : Neutral tokens parts) (context : Context) (base : Expr) (depth : Nat) :
    Takes tokens depth depth (steps parts context base) := by
  have hmember := fun context optional => takes_memberStep h context optional depth
  have hindex := fun context => h.expression context (depth + 1)
  have hcheck := fun base index => takes_checkIndex tokens base index (depth + 1)
  have hclosing := takes_expect tokens "]" (depth + 1) depth rfl
  refine takes_iterate (fun so => ?_) _
  mvcgen [hmember, hindex, hcheck, hclosing]
  all_goals exact passed_next_or tokens ‹_› ‹_› rfl rfl

theorem takes_primary (h : Neutral tokens parts) (context : Context) (depth : Nat) :
    Takes tokens depth depth (primary parts context) := by
  have hoperand := fun context => takes_operand h context depth
  have hsteps := fun context base => takes_steps h context base depth
  mvcgen [primary, hoperand, hsteps]

theorem takes_prefixed (h : Neutral tokens parts) (fuel : Nat) (context : Context) (depth : Nat) :
    Takes tokens depth depth (prefixed parts fuel context) := by
  induction fuel generalizing context with
  | zero => mvcgen [prefixed]
  | succ fuel ih =>
      have hprimary := fun context => takes_primary h context depth
      have hminus := takes_accept tokens "-" depth rfl
      have hplus := takes_accept tokens "+" depth rfl
      have hnot := takes_accept tokens "!" depth rfl
      mvcgen [prefixed, hminus, hplus, hnot, ih, hprimary]

variable (tokens) in
theorem takes_combine (operator : String) (left right : Expr) (position : Position) (depth : Nat) :
    Takes tokens depth depth (combine operator left right position) := by
  have hforms := fun expected wrong e => takes_refuseForms tokens expected wrong e depth
  mvcgen [combine, asCondition, hforms]

theorem takes_rightOperand (h : Neutral tokens parts) (fuel : Nat) (context : Context)
    (operator : String) (depth : Nat) :
    Takes tokens depth depth (rightOperand parts fuel context operator) := by
  have hprefixed := fun context => takes_prefixed h fuel context depth
  mvcgen [rightOperand, hprefixed]

/-- What binds is no bracket. -/
theorem depthAfter_of_precedence {spelling : String} (h : 0 < precedence spelling) (depth : Nat) :
    (Token.symbol spelling).depthAfter depth = depth := by
  by_contra hdepth
  have hspelling : spelling ∉ ["||", "^", "|", "&&", "&", "==", "!=", "in", "!in", "<", "<=", ">",
      ">=", "??", "..", "..=", "+", "-", "*", "/", "%", "**", "<<", ">>"] := by
    intro hmem
    fin_cases hmem <;> exact hdepth rfl
  simp [precedence] at h hspelling
  simp [hspelling] at h

variable (tokens) in
theorem nextOperator_spec (context : Context) (depth : Nat) :
    ⦃fun s => ⌜Passed tokens depth s.tokens⌝⦄ nextOperator context
    ⦃⇓? operator s => ⌜Passed tokens depth s.tokens ∧
      (0 < operator.2 → Passed tokens depth (s.tokens.drop 1))⌝⦄ := by
  mvcgen [nextOperator]
  case vc2.h_1.isFalse h _ hsymbol _ =>
    exact ⟨h, fun hbinds => h.next rfl hsymbol rfl (depthAfter_of_precedence hbinds depth)⟩
  all_goals exact ⟨‹_›, nofun⟩

theorem binaryFrom_spec (h : Neutral tokens parts) (fuel : Nat) (context : Context)
    (place : Position) (parent : Nat) (left : Expr) (depth : Nat) :
    ⦃fun s => ⌜Passed tokens depth s.tokens ∧ 0 < parent⌝⦄
    binaryFrom parts fuel context place parent left
    ⦃⇓? _ s => ⌜Passed tokens depth s.tokens⌝⦄ := by
  induction fuel generalizing context place parent left with
  | zero => mvcgen [binaryFrom]
  | succ fuel ih =>
      have hoperator := fun context => nextOperator_spec tokens context depth
      have hright := fun context operator => takes_rightOperand h (fuel + 1) context operator depth
      have hcombine := fun operator left right position =>
        takes_combine tokens operator left right position depth
      mvcgen [binaryFrom, hoperator, hright, hcombine, ih]
      all_goals grind

theorem takes_expression (h : Neutral tokens parts) (context : Context) (depth : Nat) :
    Takes tokens depth depth (expression parts context) := by
  have hprefixed := fun fuel context => takes_prefixed h fuel context depth
  have hbinary := fun fuel context place left =>
    binaryFrom_spec h fuel context place 1 left depth
  mvcgen [expression, hprefixed, hbinary]

/-! ## Statements -/

variable (tokens) in
theorem takes_terminate (statement : Stmt) (depth : Nat) :
    Takes tokens depth depth (terminate statement) := by
  have hend := takes_expect tokens ";" depth depth rfl
  mvcgen [terminate, hend]

theorem takes_blockBody (h : Neutral tokens parts) (context : Context) (depth : Nat) :
    Takes tokens (depth + 1) depth (blockBody parts context) := by
  have hstatement := fun context => h.statement context (depth + 1)
  have hclosing := accept_spec tokens "\x7d" (depth + 1) depth rfl
  have hend := takes_accept tokens ";" (depth + 1) rfl
  have hterminate := fun statement => takes_terminate tokens statement (depth + 1)
  refine takes_iterate (fun body => ?_) []
  mvcgen [hstatement, hclosing, hend, hterminate, refuseEnd]
  all_goals simp_all

variable (tokens) in
theorem takes_checkTarget (target : Expr) (combining : Bool) (position : Position) (depth : Nat) :
    Takes tokens depth depth (checkTarget target combining position) := by
  mvcgen [checkTarget, findLocal?]

/-- An assignment sign is no bracket. -/
theorem depthAfter_of_assigns {spelling : String}
    (h : (spelling == "=" || isCombiningAssignment spelling) = true) (depth : Nat) :
    (Token.symbol spelling).depthAfter depth = depth := by
  have hspelling : spelling ∈ ["=", "+=", "-=", "*=", "/=", "%=", "**=", "<<=", ">>=", "&=", "|=",
      "^="] := by
    simpa [isCombiningAssignment] using h
  fin_cases hspelling <;> rfl

variable (tokens) in
theorem seesAssignment_spec (depth : Nat) :
    ⦃fun s => ⌜Passed tokens depth s.tokens⌝⦄ seesAssignment
    ⦃⇓? assigns s => ⌜Passed tokens depth s.tokens ∧
      (assigns = true → Passed tokens depth (s.tokens.drop 1))⌝⦄ := by
  mvcgen [seesAssignment]
  case vc1.h_1 h _ hsymbol =>
    exact ⟨h, fun hassigns => h.next rfl hsymbol rfl (depthAfter_of_assigns hassigns depth)⟩
  all_goals exact ⟨‹_›, nofun⟩

theorem takes_expressionStatement (h : Neutral tokens parts) (context : Context) (depth : Nat) :
    Takes tokens depth depth (expressionStatement parts context) := by
  have hexpression := fun context => h.expression context depth
  have hassigns := seesAssignment_spec tokens depth
  have htarget := fun target combining position =>
    takes_checkTarget tokens target combining position depth
  mvcgen [expressionStatement, hexpression, hassigns, htarget]
  all_goals grind

theorem takes_block (h : Neutral tokens parts) (context : Context) (depth : Nat) :
    Takes tokens depth depth (block parts context) := by
  have hopening := takes_expect tokens "\x7b" depth (depth + 1) rfl
  have hclosing := takes_expect tokens "\x7d" (depth + 1) depth rfl
  have hstatement := fun context => takes_expressionStatement h context (depth + 1)
  have hbody := fun context => takes_blockBody h context depth
  have henclosed (inner : Context) : Takes tokens (depth + 1) depth (enclosed do
      if context.singleBlocks then
        let statement ← expressionStatement parts inner
        let _ ← expect "\x7d" "to terminate this block"
        return [statement]
      else blockBody parts inner) := by
    refine takes_enclosed ?_
    mvcgen [hstatement, hclosing, hbody]
  mvcgen [block, hopening, henclosed]

theorem takes_condition (h : Neutral tokens parts) (context : Context) (depth : Nat) :
    Takes tokens depth depth (condition parts context) := by
  have hexpression := fun context => h.expression context depth
  have hforms := fun expected wrong e => takes_refuseForms tokens expected wrong e depth
  mvcgen [condition, refuseBlock, asCondition, refuseAssignment, hexpression, hforms]

theorem takes_branch (h : Neutral tokens parts) (context : Context) (position : Position)
    (depth : Nat) : Takes tokens depth depth (branch parts context position) := by
  have hcondition := fun context => takes_condition h context depth
  have hblock := fun context => h.block context depth
  have hcompound := fun context => h.compound context depth
  have helse := takes_accept tokens "else" depth rfl
  mvcgen [branch, hcondition, hblock, hcompound, helse, sees]

theorem takes_alternatives (h : Neutral tokens parts) (context : Context) (depth : Nat) :
    Takes tokens depth depth (alternatives parts context) := by
  have hbar := takes_accept tokens "|" depth rfl
  refine takes_iterate (fun taken => ?_) []
  mvcgen [hbar]
  all_goals exact of_run_eq (h.expression _ depth) ‹_› ‹_›

theorem takes_caseAction (h : Neutral tokens parts) (context : Context) (depth : Nat) :
    Takes tokens depth depth (caseAction parts context) := by
  have hexpression := fun context => h.expression context depth
  have hstatement := fun context => h.statement context depth
  mvcgen [caseAction, hexpression, hstatement]

variable (tokens) in
theorem takes_caseSeparator (endsItself : Bool) (depth : Nat) :
    Takes tokens depth depth (caseSeparator endsItself) := by
  have hcomma := takes_accept tokens "," depth rfl
  mvcgen [caseSeparator, hcomma]

variable (tokens) in
theorem takes_casePatterns (ranged : Bool) (choices : List Expr) (depth : Nat) :
    Takes tokens depth depth (casePatterns ranged choices) := by
  induction choices generalizing ranged with
  | nil => mvcgen [casePatterns]
  | cons e rest ih => mvcgen [casePatterns, ih]

theorem takes_switchCase (h : Neutral tokens parts) (context : Context) (so : Switching)
    (depth : Nat) : Takes tokens depth depth (switchCase parts context so) := by
  have harrow := takes_expect tokens "=>" depth depth rfl
  have hif := takes_accept tokens "if" depth rfl
  have haction := fun context => takes_caseAction h context depth
  have hseparator := fun endsItself => takes_caseSeparator tokens endsItself depth
  have halternatives := fun context => takes_alternatives h context depth
  have hcondition := fun context => takes_condition h context depth
  have hpatterns := fun ranged choices => takes_casePatterns tokens ranged choices depth
  mvcgen [switchCase, harrow, hif, haction, hseparator, halternatives, hcondition, hpatterns]
  all_goals exact Passed.next ‹_› rfl (isSymbol_iff.mp ‹_›) rfl rfl

theorem takes_switch (h : Neutral tokens parts) (context : Context) (position : Position)
    (depth : Nat) : Takes tokens depth depth (switch parts context position) := by
  have hsubject := fun context => h.expression context depth
  have hopening := takes_expect tokens "\x7b" depth (depth + 1) rfl
  have hclosing := accept_spec tokens "\x7d" (depth + 1) depth rfl
  have hcase := fun context so => takes_switchCase h context so (depth + 1)
  have hcases : ∀ so, Takes tokens (depth + 1) depth (iterate (fun (so : Switching) => do
      if ← accept "\x7d" then return .inr so
      refuseEnd "\x7d" "to end this switch block" (← peek)
      return .inl (← switchCase parts context so)) so) := by
    refine takes_iterate fun so => ?_
    mvcgen [hclosing, hcase, refuseEnd]
    all_goals simp_all
  mvcgen [switch, hsubject, hopening, hcases, -peek]

theorem takes_whileLoop (h : Neutral tokens parts) (context : Context) (position : Position)
    (depth : Nat) : Takes tokens depth depth (whileLoop parts context position) := by
  have hcondition := fun context => takes_condition h context depth
  have hblock := fun context => h.block context depth
  mvcgen [whileLoop, hcondition, hblock]

theorem takes_endlessLoop (h : Neutral tokens parts) (context : Context) (position : Position)
    (depth : Nat) : Takes tokens depth depth (endlessLoop parts context position) := by
  have hblock := fun context => h.block context depth
  mvcgen [endlessLoop, hblock]

theorem takes_doLoop (h : Neutral tokens parts) (context : Context) (position : Position)
    (depth : Nat) : Takes tokens depth depth (doLoop parts context position) := by
  have hblock := fun context => h.block context depth
  have hwhile := takes_accept tokens "while" depth rfl
  have huntil := takes_accept tokens "until" depth rfl
  have hcondition := fun context => takes_condition h context depth
  mvcgen [doLoop, hblock, hwhile, huntil, hcondition]

variable (tokens) in
theorem takes_loopVariables (depth : Nat) : Takes tokens depth depth loopVariables := by
  have hopening := accept_spec tokens "(" depth (depth + 1) rfl
  have hcomma := takes_expect tokens "," (depth + 1) (depth + 1) rfl
  have hclosing := takes_expect tokens ")" (depth + 1) depth rfl
  mvcgen [loopVariables, variableName, hopening, hcomma, hclosing]
  all_goals first
    | exact Passed.next ‹_› (if_pos ‹_›) ‹_› rfl rfl
    | exact Passed.next ‹_› (if_neg ‹_›) ‹_› rfl rfl
    | exact Passed.next ‹_› rfl ‹_› rfl rfl

theorem takes_forLoop (h : Neutral tokens parts) (context : Context) (position : Position)
    (depth : Nat) : Takes tokens depth depth (forLoop parts context position) := by
  have hvariables := takes_loopVariables tokens depth
  have hin := takes_expect tokens "in" depth depth rfl
  have hitems := fun context => h.expression context depth
  have hforms := fun expected wrong e => takes_refuseForms tokens expected wrong e depth
  have hbody (name : String) (counter : Option String) (context : Context) :
      Takes tokens depth depth (enclosed do
        counter.forM fun counter => declareLocal counter false
        declareLocal name false
        parts.block context) := by
    have hblock := fun context => h.block context depth
    refine takes_enclosed ?_
    cases counter <;> mvcgen [declareLocal, hblock, Option.forM]
  mvcgen [forLoop, hvariables, hin, refuseBlock, hitems, asIterable, hforms, hbody]

variable (tokens) in
theorem takes_functionParameters (function : String) (depth : Nat) :
    Takes tokens (depth + 1) depth (functionParameters function) := by
  have hclosing := accept_spec tokens ")" (depth + 1) depth rfl
  have hcomma := takes_expect tokens "," (depth + 1) (depth + 1) rfl
  refine takes_iterate (fun names => ?_) []
  mvcgen [hclosing, hcomma]
  all_goals first
    | exact Passed.next ‹_› (if_neg ‹_›) ‹_› rfl rfl
    | simp_all

theorem takes_declaration (h : Neutral tokens parts) (context : Context) (constant : Bool)
    (depth : Nat) : Takes tokens depth depth (declaration parts context constant) := by
  have hname := takes_variableName tokens depth
  have hsign := takes_accept tokens "=" depth rfl
  have hvalue := fun context => h.expression context depth
  mvcgen [declaration, hname, hsign, hvalue, declareLocal]

theorem takes_attempt (h : Neutral tokens parts) (context : Context) (position : Position)
    (depth : Nat) : Takes tokens depth depth (attempt parts context position) := by
  have hblock := fun context => h.block context depth
  have hcatch := takes_expect tokens "catch" depth depth rfl
  have hopening := accept_spec tokens "(" depth (depth + 1) rfl
  have hname := takes_variableName tokens (depth + 1)
  have hclosing := takes_expect tokens ")" (depth + 1) depth rfl
  have hhandler (name : String) (context : Context) : Takes tokens depth depth (enclosed do
      declareLocal name false
      parts.block context) := by
    refine takes_enclosed ?_
    mvcgen [declareLocal, hblock]
  mvcgen [attempt, hblock, hcatch, hopening, hname, hclosing, hhandler]
  all_goals simp_all

variable (tokens) in
theorem takes_functionName (depth : Nat) : Takes tokens depth depth functionName := by
  mvcgen [functionName]
  all_goals exact Passed.next ‹_› rfl ‹_› rfl rfl

theorem takes_function (h : Neutral tokens parts) (context : Context) (position : Position)
    (depth : Nat) : Takes tokens depth depth (function parts context position) := by
  have hempty := takes_accept tokens "()" depth rfl
  have hopening := accept_spec tokens "(" depth (depth + 1) rfl
  have hparameters := fun name => takes_functionParameters tokens name depth
  have hbody := fun parameters context =>
    takes_framed parameters (h.block context depth)
  have hname := takes_functionName tokens depth
  mvcgen [function, hname, hempty, hopening, hparameters, sees, hbody]
  all_goals simp_all

theorem takes_optionalValue (h : Neutral tokens parts) (context : Context) (position : Position)
    (depth : Nat) : Takes tokens depth depth (optionalValue parts context position) := by
  have hexpression := fun context => h.expression context depth
  mvcgen [optionalValue, hexpression]

theorem takes_compound (h : Neutral tokens parts) (context : Context) (depth : Nat) :
    Takes tokens depth depth (compound parts context) := by
  have hbranch := fun context position => takes_branch h context position depth
  have hswitch := fun context position => takes_switch h context position depth
  have hwhile := fun context position => takes_whileLoop h context position depth
  have hendless := fun context position => takes_endlessLoop h context position depth
  have hdo := fun context position => takes_doLoop h context position depth
  have hfor := fun context position => takes_forLoop h context position depth
  have hblock := fun context => h.block context depth
  mvcgen [compound, hbranch, hswitch, hwhile, hendless, hdo, hfor, hblock]
  all_goals exact Passed.next ‹_› rfl ‹_› rfl rfl

/-- The next token is passed where it is a keyword that leaves no bracket open. -/
theorem passed_next_keyword {ahead : List Placed} {depth : Nat} {spelling : String}
    (h : Passed tokens depth ahead)
    (hkeyword : (match (ahead.headD ⟨.done, .start⟩).token with
      | .symbol spelling => spelling
      | _ => "") = spelling) (hne : spelling ≠ "")
    (hdepth : (Token.symbol spelling).depthAfter depth = depth) :
    Passed tokens depth (ahead.drop 1) := by
  split at hkeyword
  · next htoken => exact h.next rfl (hkeyword ▸ htoken) rfl hdepth
  · exact absurd hkeyword.symm hne

theorem takes_statement (h : Neutral tokens parts) (context : Context) (depth : Nat) :
    Takes tokens depth depth (statement parts context) := by
  have hcompound := fun context => takes_compound h context depth
  have hvalue := fun context position => takes_optionalValue h context position depth
  have hattempt := fun context position => takes_attempt h context position depth
  have hdeclaration := fun context constant => takes_declaration h context constant depth
  have hfn := takes_expect tokens "fn" depth depth rfl
  have hfunction := fun context position => takes_function h context position depth
  have hexpression := fun context => takes_expressionStatement h context depth
  mvcgen [statement, hcompound, hvalue, hattempt, hdeclaration, hfn, hfunction, hexpression]
  all_goals exact passed_next_keyword ‹_› ‹_› (by decide) rfl

/-- The readers of every layer of the grammar close the brackets that they open. -/
theorem neutral_layers (layer : Nat) : Neutral tokens (layers layer) := by
  induction layer with
  | zero =>
      constructor
      all_goals
        intro context depth
        dsimp only [layers]
        mvcgen
  | succ layer ih =>
      exact ⟨takes_expression ih, takes_statement ih, takes_compound ih, takes_block ih⟩

/-- A program ends where its tokens do, with no bracket open. -/
theorem statements_spec (h : Neutral tokens parts) (context : Context) (depth : Nat) :
    ⦃fun s => ⌜Passed tokens depth s.tokens⌝⦄ statements parts context
    ⦃⇓? _ s => ⌜Passed tokens depth s.tokens ∧
      (s.tokens.headD ⟨.done, .start⟩).token = .done⌝⦄ := by
  have hstatement := fun context => h.statement context depth
  have hterminate := fun statement => takes_terminate tokens statement depth
  refine iterate_spec (fun body => ?_) []
  mvcgen [hstatement, hterminate]

end Grammar

open Grammar in
/-- What is read as a script closes every bracket that it opens, and none of its tokens is a
fault. -/
theorem passed_of_parseScript {firstLambda : Nat} {source : String} {program : Program}
    (h : parseScript firstLambda source = .ok program) :
    ∃ ahead, Passed (tokenize source) 0 ahead ∧
      (ahead.headD ⟨.done, .start⟩).token = .done := by
  unfold parseScript at h
  split at h
  · next body state hread =>
      exact ⟨state.tokens, of_run_eq (statements_spec (neutral_layers _) _ 0)
        (Passed.refl (tokenize source)) hread⟩
  · cases h

end Cellbook.Script
