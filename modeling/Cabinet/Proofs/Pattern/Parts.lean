import Cabinet.Proofs.Pattern.Reading

/-!
The parts of a pattern are read without failing but to refuse it.
-/

namespace Cabinet.Pattern

namespace Steady

variable {α : Type} {asked : Char → Prop} {all : List Token} {spare : Nat}

theorem refuse (reason : String) (escape : List Char) :
    Steady asked all spare (Escape.refuse reason escape : Reading α) :=
  .fail _ _

theorem hexadecimal (letter : Char) (count : Nat) :
    Steady asked all spare (Escape.hexadecimal letter count) :=
  .bind (.takeUpTo _ _) fun _ => .check (.refuse _ _) fun _ => .check (.refuse _ _) fun _ => .pure _

theorem named : Steady asked all spare Escape.named := by
  refine .bind (.accept _) fun opened => .check (.fail _ _) fun _ => .bind (.nameUntil _ _) fun name => ?_
  split
  · exact .pure _
  · exact .fail _ _

theorem shared (c : Char) : Steady asked all spare (Escape.shared c) := by
  unfold Escape.shared
  split
  · exact .hexadecimal _ _
  · exact .hexadecimal _ _
  · exact .hexadecimal _ _
  · exact .named
  · exact .ite (fun _ => .refuse _ _) fun _ => .pure _

theorem octal (digits : List Char) : Steady asked all spare (Escape.octal digits) :=
  .check (.fail _ _) fun _ => .pure _

theorem inSet (c : Char) : Steady asked all spare (Escape.inSet c) := by
  unfold Escape.inSet
  split
  · exact .pure _
  · exact .pure _
  · exact .ite (fun _ => .bind (.takeUpTo _ _) fun _ => .octal _) fun _ => .shared _

theorem checkLookBehind (group : Nat) : Steady asked all spare (checkLookBehind group) := by
  refine .get_bind fun s => ?_
  split
  · exact .pure _
  · exact .check (.fail _ _) fun _ => .ite (fun _ => .fail _ _) fun _ => .pure _

theorem refer (flags : Flags) (group back : Nat) : Steady asked all spare (refer flags group back) := by
  refine .get_bind fun s => ?_
  split
  · exact .fail _ _
  · exact .bind (.checkLookBehind _) fun _ => .pure _

theorem numbered (flags : Flags) (c : Char) : Steady asked all spare (numbered flags c) := by
  have htail : ∀ third : List Char, ∀ second : List Char, Steady asked all spare (do
      let digits := c :: second ++ third
      if !third.isEmpty then return oneOf flags ((← Escape.octal digits).member flags)
      let group := Text.numeral digits
      if group < (← get).widths.length then Pattern.refer flags group (digits.length + 1)
      else Reading.fail ("invalid group reference " ++ toString group) digits.length : Reading Pattern) := by
    intro third second
    refine .ite (fun _ => .bind (.octal _) fun _ => .pure _) fun _ => ?_
    exact .get_bind fun s => .ite (fun _ => .refer _ _ _) fun _ => .fail _ _
  refine .ite (fun _ => .bind (.takeUpTo _ _) fun _ => .pure _) fun _ => ?_
  refine .bind (.takeUpTo _ _) fun second => ?_
  refine .ite (fun _ => .bind (.takeUpTo _ _) fun third => htail third second) fun _ => htail [] second

theorem escaped (flags : Flags) (c : Char) : Steady asked all spare (escaped flags c) := by
  unfold Pattern.escaped
  split
  · exact .pure _
  · exact .pure _
  · exact .pure _
  · exact .pure _
  · split
    · exact .pure _
    · exact .pure _
    · exact .ite (fun _ => .numbered _ _) fun _ => .bind (.shared _) fun _ => .pure _

/-! Sets, bounds and names -/

theorem skipPast (c : Char) : Steady asked all spare (skipPast c) := by
  intro s hs hroom
  unfold Pattern.skipPast
  rw [StateT.run_bind, StateT.run_get, pure_bind]
  dsimp only
  split
  · exact ends_moveTo ((List.drop_suffix _ _).trans (List.dropWhile_suffix _))
  · exact .pure () s

theorem skipComment (start : Nat) : Steady asked all spare (skipComment start) := by
  intro s hs hroom
  unfold Pattern.skipComment
  rw [StateT.run_bind, StateT.run_get, pure_bind]
  dsimp only
  split
  · split
    · exact moveTo_bind List.nil_suffix hs hroom (.failAt _ _)
    · exact failAt _ _ s hs hroom
  · next t rest hdrop =>
    exact ends_moveTo ((List.suffix_cons t rest).trans (hdrop ▸ List.dropWhile_suffix _))

theorem setEscape (t : Token) : Steady asked all spare (setEscape t) :=
  .ite (fun _ => .inSet _) fun _ => .pure _

theorem setMembers (flags : Flags) (start fuel : Nat) (members : List Member) :
    Steady asked all spare (setMembers flags start fuel members) := by
  induction fuel generalizing members with
  | zero => exact .failAt _ _
  | succ fuel ih =>
    refine .bind .next fun t? => ?_
    split
    · exact .failAt _ _
    refine .ite (fun _ => .pure _) fun _ => .bind (.setEscape _) fun low => .bind (.accept _) fun ranged =>
      .ite (fun _ => ih _) fun _ => .bind .next fun u? => ?_
    split
    · exact .failAt _ _
    refine .ite (fun _ => .pure _) fun _ => .bind (.setEscape _) fun high => ?_
    split
    · exact .ite (fun _ => .fail _ _) fun _ => ih _
    · exact .fail _ _

theorem charSet (flags : Flags) (start : Nat) : Steady asked all spare (charSet flags start) :=
  .bind (.accept _) fun _ => .get_bind fun _ => .bind (.setMembers _ _ _ _) fun _ => .pure _

theorem readEagerness : Steady asked all spare readEagerness :=
  .bind (.accept _) fun _ => .ite (fun _ => .pure _) fun _ => .bind (.accept _) fun _ =>
    .ite (fun _ => .pure _) fun _ => .pure _

theorem repeatLast (start : Nat) (bounds : Nat × Option Nat) (items : List Pattern) :
    Steady asked all spare (repeatLast start bounds items) := by
  unfold Pattern.repeatLast
  split
  · exact .failAt _ _
  · exact .failAt _ _
  · exact .failAt _ _
  · exact .bind .readEagerness fun _ => .pure _

theorem checkName (name : List Char) : Steady asked all spare (checkName name) :=
  .ite (fun _ => .fail _ _) fun _ => .pure _

theorem groupNamed (name : List Char) : Steady asked all spare (groupNamed name) := by
  refine .get_bind fun s => ?_
  split
  · exact .pure _
  · exact .fail _ _

theorem openCapture (name : Option (List Char)) : Steady asked all spare (openCapture name) := by
  intro s hs hroom
  unfold Pattern.openCapture
  rw [StateT.run_bind, StateT.run_get, pure_bind]
  dsimp only
  split
  · exact Reads.of_eq rfl rfl rfl
  · split
    · exact fail _ _ s hs hroom
    · exact Reads.of_eq rfl rfl rfl

theorem closeCapture (group : Nat) (width : Width) : Steady asked all spare (closeCapture group width) :=
  .modify (fun _ => rfl) (fun _ => rfl) fun _ => rfl

theorem closeGroup (start : Nat) : Steady asked all spare (closeGroup start) :=
  .bind (.accept _) fun _ => .ite (fun _ => .failAt _ _) fun _ => .pure _

theorem namedReference (flags : Flags) : Steady asked all spare (namedReference flags) :=
  .bind (.nameUntil _ _) fun _ => .bind (.checkName _) fun _ => .bind (.groupNamed _) fun _ => .refer _ _ _

theorem conditionGroup : Steady asked all spare conditionGroup := by
  have htail : ∀ group : Nat, Steady asked all spare (do
      Pattern.checkLookBehind group
      return group : Reading Nat) := fun _ => .bind (.checkLookBehind _) fun _ => .pure _
  refine .bind (.nameUntil _ _) fun name => .ite (fun _ => .bind (.groupNamed _) htail) fun _ => ?_
  split
  · exact .bind (.fail _ _) htail
  · refine .check (.fail _ _) fun _ => .bind (.get_bind fun _ => .pure _) fun here =>
      .bind (.modify (fun s => ?_) (fun s => ?_) fun s => ?_) fun _ => htail _
    all_goals split <;> rfl
  · exact .bind (.fail _ _) htail

theorem namedOpening : Steady asked all spare namedOpening := by
  refine .bind (.accept _) fun _ => .ite (fun _ => .bind (.nameUntil _ _) fun _ => .bind (.checkName _) fun _ =>
    .pure _) fun _ => .bind (.accept _) fun _ => .ite (fun _ => .pure _) fun _ => .bind .next fun t? => ?_
  split
  · exact .fail _ _
  · exact .fail _ _

theorem removedFlags (fuel : Nat) (t : Token) (removed : Flags) :
    Steady asked all spare (removedFlags fuel t removed) := by
  induction fuel generalizing t removed with
  | zero => exact .fail _ _
  | succ fuel ih =>
    unfold Pattern.removedFlags
    split
    · exact .fail _ _
    refine .check (.fail _ _) fun _ => .bind .next fun u? => ?_
    split
    · exact .fail _ _
    · exact .ite (fun _ => .pure _) fun _ => .ite (fun _ => ih _ _) fun _ => .fail _ _

end Steady

end Cabinet.Pattern
