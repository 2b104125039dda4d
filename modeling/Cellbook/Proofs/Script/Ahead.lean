import Cellbook.Script.Simplify

/-!
# What is settled ahead

Of what is known as a program is read only the value of each name matters, and not what else is kept
of names that are taken anew: where every name stands for the same value ahead, programs are
simplified alike (`simplifyProgram_congr`).
-/

namespace Cellbook.Script.Simplify

/-- Every name stands for the same value ahead. -/
def Known.Agrees (known known' : Known) : Prop := ∀ name, known.value? name = known'.value? name

namespace Known.Agrees

variable {known known' : Known}

theorem cons (h : known.Agrees known') (entry : String × Option Value) :
    Known.Agrees (entry :: known) (entry :: known') := by
  intro name
  have hrest := h name
  rw [Known.value?, Known.value?] at hrest ⊢
  rw [List.lookup_cons, List.lookup_cons]
  split
  · rfl
  · exact hrest

/-- A statement takes the same name anew. -/
theorem after (h : known.Agrees known') (s : Stmt) : (known.after s).Agrees (known'.after s) := by
  cases s with
  | declare name constant replaces value position => exact h.cons _
  | _ => exact h

theorem settle_eq (h : known.Agrees known') : settle known = settle known' := by
  funext capture
  cases capture with
  | shared name position => rw [settle, settle, h]
  | settled value => rfl

end Known.Agrees

/-- Statements in a row are simplified alike if each is, wherever names stand for the same ahead. -/
theorem foldl_congr (simple : Known → Stmt → Stmt)
    (hsimple : ∀ {known known'}, known.Agrees known' → simple known = simple known')
    {known known' : Known} (h : known.Agrees known') (body reversed : List Stmt) :
    (body.foldl (fun (known, reversed) s =>
      let s := simple known s
      (Known.after known s, s :: reversed)) (known, reversed)).2 =
    (body.foldl (fun (known, reversed) s =>
      let s := simple known s
      (Known.after known s, s :: reversed)) (known', reversed)).2 := by
  induction body generalizing known known' reversed with
  | nil => rfl
  | cons s body ih =>
      rw [List.foldl_cons, List.foldl_cons]
      dsimp only
      rw [hsimple h]
      exact ih (h.after _) _

/-- All functions that simplify down to a depth do so alike. -/
structure SimplifyAlike (depth : Nat) (known known' : Known) : Prop where
  expression : simplify depth known = simplify depth known'
  step : simplifyStep depth known = simplifyStep depth known'
  target : simplifyTarget depth known = simplifyTarget depth known'
  statement : simplifyStmt depth known = simplifyStmt depth known'

theorem simplify_congr (depth : Nat) {known known' : Known} (h : known.Agrees known') :
    SimplifyAlike depth known known' := by
  induction depth generalizing known known' with
  | zero => exact ⟨rfl, rfl, rfl, rfl⟩
  | succ depth ih =>
      obtain ⟨hexpression, hstep, htarget, hstatement⟩ := ih h
      constructor
      · funext e
        unfold simplify
        simp only [hexpression, hstep, hstatement, h.settle_eq, h _]
      · funext s
        unfold simplifyStep
        simp only [hexpression]
      · funext e
        unfold simplifyTarget
        simp only [hexpression, hstep]
      · have hall (kept : Bool) (body : List Stmt) :=
          foldl_congr (fun known s => simplifyStmt depth known kept s)
            (fun h => funext fun s => congrFun (congrFun (ih h).statement kept) s) h body []
        funext kept s
        unfold simplifyStmt
        simp only [hexpression, htarget, hstatement, hall]

/-- A program is simplified alike wherever all names stand for the same ahead. -/
theorem simplifyProgram_congr (depth : Nat) {known known' : Known} (h : known.Agrees known')
    (program : Program) :
    simplifyProgram depth known program = simplifyProgram depth known' program := by
  have hbody (body : List Stmt) : simplifyBody depth known body = simplifyBody depth known' body :=
    congrArg (fun reversed : List Stmt => tidy depth true false reversed.reverse)
      (foldl_congr (fun known s => simplifyStmt depth known true s)
        (fun h => funext fun s => congrFun (congrFun (simplify_congr depth h).statement true) s)
        h body [])
  rw [simplifyProgram, simplifyProgram, hbody]
  simp only [hbody]

end Cellbook.Script.Simplify
