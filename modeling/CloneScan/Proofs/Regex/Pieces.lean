import CloneScan.Proofs.Regex.Sets

/-!
# Pieces before a Closing

One piece of a pattern, whatever it is, is read the same before a closing as without it. This puts
together what is known of escapes and sets with what parentheses open and the bounds of
repetitions, and `readAction_stable` is the case distinction over the character that a piece starts
with. What a piece does to the parts read before it is left out of this: `step_eq` takes the two
apart, and only the second depends on the groups that are open.

Where a piece is cut short by the end of the text, a reading that goes on into the closing has
little to go on with. Names and bounds do not allow for a parenthesis. Flags end with it, and an
escape makes it a character of its own, and then no parenthesis is left. The remaining case is a
word edge, after which a brace is left; the next piece is refused there, since the closing is no
bound of a repetition (`readCount_closing`).

## Main definitions

* `FlagsLost`, `GroupLost`, `ActionLost`: What is read into the closing.
* `readBoundEnd`, `readCountEnd`, `readQuestion`: Parts of the readers of pieces.
* `Action`, `readAction`, `act`: What a piece does, its reading and its effect.

## Theorems

* `readCount_stable`: The bounds of a repetition.
* `readOpening_stable`: What a parenthesis opens.
* `step_eq`: A piece is read first and carried out then.
* `readAction_stable`: One piece.
-/

namespace CloneScan

namespace PatternReader

/-! ## Repetitions -/

/-- What ends a bound of a repetition. -/
def readBoundEnd (digits : List Char) : Reads Nat := fun rest =>
  let n := digits.foldl (fun n c => 10 * n + (c.toNat - 48)) 0
  if digits ≠ [] ∧ n ≤ countLimit then .ok (n, rest.dropWhile Unicode.isBlank)
  else .error .badCount

theorem readBound_eq (extended : Bool) (text : List Char) :
    readBound extended text
      = readBoundEnd (spaced extended Char.isDigit false (text.dropWhile Unicode.isBlank)).1
          (spaced extended Char.isDigit false (text.dropWhile Unicode.isBlank)).2 := by
  unfold readBound
  rcases spaced extended Char.isDigit false (text.dropWhile Unicode.isBlank) with ⟨digits, rest⟩
  cases digits with
  | nil => simp only [readBoundEnd, ne_eq, not_true_eq_false, false_and, if_false]
  | cons d digits =>
      simp only [readBoundEnd, ne_eq, reduceCtorEq, not_false_eq_true, true_and]

theorem readBound_stable (extended : Bool) : Stable never (readBound extended) := by
  have hjoined : ∀ text : List Char,
      Joined (text.dropWhile Unicode.isBlank) ((text ++ closing).dropWhile Unicode.isBlank) :=
    fun text => Or.inl (dropWhile_append_closing text)
  have hend : ∀ digits, Stable never (readBoundEnd digits) := by
    intro digits
    unfold readBoundEnd
    by_cases hcount : digits ≠ [] ∧
        digits.foldl (fun n c => 10 * n + (c.toNat - 48)) 0 ≤ countLimit
    · simp only [if_pos hcount]
      exact (Stable.ok never _).comp (fun text => List.dropWhile_suffix _) hjoined
    · simp only [if_neg hcount]
      exact .error never _
  rw [funext (readBound_eq extended)]
  exact (Stable.after_spaced hend extended rfl).comp (fun text => List.dropWhile_suffix _) hjoined

/-- What follows the mark that closes the bounds of a repetition. -/
theorem passed_stable {α : Type} (extended : Bool) (a : α) :
    Stable never fun text => .ok (a, passLazyMark (blanks extended text)) :=
  ((Stable.ok never a).comp passLazyMark_suffix
    fun text => Or.inl (passLazyMark_append_closing text)).after_blanks extended

/-- What follows both bounds of a repetition. -/
def readMostEnd (extended : Bool) (least most : Nat) : Reads (Nat × Option Nat) :=
  onFirst .badCount fun c rest =>
    if c = '\x7d' then
      if least ≤ most then .ok ((least, some most), passLazyMark (blanks extended rest))
      else .error .reversedCount
    else .error .badCount

/-- What follows the least bound of a repetition and a comma. -/
def readMost (extended : Bool) (least : Nat) : Reads (Nat × Option Nat) :=
  onFirst .badCount fun c rest =>
    if c = '\x7d' then .ok ((least, none), passLazyMark (blanks extended rest))
    else readBound extended (c :: rest) >>= fun p => readMostEnd extended least p.1 p.2

/-- What follows the least bound of a repetition. -/
def readCountEnd (extended : Bool) (least : Nat) : Reads (Nat × Option Nat) :=
  onFirst .badCount fun c rest =>
    if c = '\x7d' then .ok ((least, some least), passLazyMark (blanks extended rest))
    else if c = ',' then readMost extended least (blanks extended rest)
    else .error .badCount

theorem readCount_eq (extended : Bool) (text : List Char) :
    readCount extended text = (readBound extended (blanks extended text) >>= fun p =>
      readCountEnd extended p.1 p.2) := by
  unfold readCount
  cases readBound extended (blanks extended text) with
  | error e => rfl
  | ok p =>
      rcases p with ⟨least, rest⟩
      simp only [bind, Except.bind]
      rcases rest with _ | ⟨c, rest⟩
      · rfl
      rw [readCountEnd, onFirst]
      by_cases hclose : c = '\x7d'
      · subst hclose
        rfl
      rw [if_neg hclose]
      by_cases hcomma : c = ','
      · subst hcomma
        simp only [if_true]
        rw [readMost]
        cases blanks extended rest with
        | nil => rfl
        | cons d after =>
            rw [onFirst]
            by_cases hopen : d = '\x7d'
            · subst hopen
              rfl
            simp only [if_neg hopen]
            split
            · next heq => exact absurd (List.cons.inj heq).1 hopen
            · cases readBound extended (d :: after) with
              | error e => rfl
              | ok q =>
                  rcases q with ⟨most, _ | ⟨e, left⟩⟩
                  · rfl
                  have hmost : (Except.ok (most, e :: left) >>= fun p =>
                      readMostEnd extended least p.1 p.2)
                      = readMostEnd extended least most (e :: left) := rfl
                  rw [hmost, readMostEnd, onFirst]
                  by_cases hend : e = '\x7d'
                  · subst hend
                    rfl
                  rw [if_neg hend]
                  simp only []
                  split
                  · next heq => exact absurd (List.cons.inj heq).1 hend
                  · rfl
      · rw [if_neg hcomma]
        split
        · next heq => exact absurd (List.cons.inj heq).1 hclose
        · next heq => exact absurd (List.cons.inj heq).1 hcomma
        · rfl

theorem readMostEnd_stable (extended : Bool) (least most : Nat) :
    Stable never (readMostEnd extended least most) := by
  refine .onFirst _ (fun c rest => ?_) fun a joined h => ?_
  · by_cases hend : c = '\x7d'
    · rw [if_pos hend, if_pos hend]
      by_cases horder : least ≤ most
      · rw [if_pos horder, if_pos horder]
        exact (passed_stable extended _).after_first c rest
      · rw [if_neg horder, if_neg horder]
        exact .refused
    · rw [if_neg hend, if_neg hend]
      exact .refused
  · rw [if_neg (by decide)] at h
    exact error_ne_ok h

theorem readMost_stable (extended : Bool) (least : Nat) :
    Stable never (readMost extended least) := by
  have hboth : Stable never fun text =>
      readBound extended text >>= fun p => readMostEnd extended least p.1 p.2 :=
    (readBound_stable extended).bind (readMostEnd_stable extended least)
      fun _ _ _ _ hlost => hlost.elim
  refine .onFirst _ (fun c rest => ?_) fun a joined h => ?_
  · by_cases hend : c = '\x7d'
    · rw [if_pos hend, if_pos hend]
      exact (passed_stable extended _).after_first c rest
    · rw [if_neg hend, if_neg hend]
      exact hboth (c :: rest)
  · rw [if_neg (by decide)] at h
    exact hboth.lost_of_closing rfl h

theorem readCount_stable (extended : Bool) : Stable never (readCount extended) := by
  have hend : ∀ least, Stable never (readCountEnd extended least) := by
    intro least
    refine .onFirst _ (fun c rest => ?_) fun a joined h => ?_
    · by_cases hclose : c = '\x7d'
      · rw [if_pos hclose, if_pos hclose]
        exact (passed_stable extended _).after_first c rest
      rw [if_neg hclose, if_neg hclose]
      by_cases hcomma : c = ','
      · rw [if_pos hcomma, if_pos hcomma]
        exact ((readMost_stable extended least).after_blanks extended).after_first c rest
      · rw [if_neg hcomma, if_neg hcomma]
        exact .refused
    · rw [if_neg (by decide), if_neg (by decide)] at h
      exact error_ne_ok h
  rw [funext (readCount_eq extended)]
  exact ((readBound_stable extended).after_blanks extended).bind hend
    fun _ _ _ _ hlost => hlost.elim

/-- The closing is no bound of a repetition. -/
theorem readCount_closing {extended : Bool} {text : List Char}
    (h : blanks extended text = closing) : readCount extended text = .error .badCount := by
  have hdigits : spaced extended Char.isDigit false (closing.dropWhile Unicode.isBlank)
      = ([], closing) := by
    have hstart := dropWhile_append_closing []
    rw [List.nil_append] at hstart
    rw [hstart]
    exact spaced_closing extended rfl
  rw [readCount_eq, h, readBound_eq, hdigits]
  rfl

/-! ## Groups -/

theorem isNameChar_parenthesis (first : Bool) : isNameChar first ')' = false := by
  cases first with
  | true => decide +kernel
  | false => decide +kernel

theorem readName_stable (first : Bool) : Stable never (readName first) := by
  intro text
  induction text generalizing first with
  | nil =>
      refine .of_error fun a joined h => ?_
      rw [List.nil_append, closing, readName] at h
      · rw [isNameChar_parenthesis, if_neg Bool.false_ne_true] at h
        exact error_ne_ok h
      · decide
  | cons c rest ih =>
      rw [List.cons_append]
      by_cases hend : c = '>'
      · subst hend
        cases first with
        | true => exact .refused
        | false => exact (Stable.ok never []).after_first '>' rest
      rw [readName, readName]
      · by_cases hname : isNameChar first c = true
        · rw [if_pos hname, if_pos hname]
          -- The name goes on, and the character is put in front of what is read there.
          have hlater := ih false
          generalize readName false rest = alone at hlater ⊢
          generalize readName false (rest ++ closing) = both at hlater ⊢
          cases hlater with
          | same suffix left => exact .same (suffix.trans (List.suffix_cons c rest)) left
          | refused => exact .refused
          | lost is_lost => exact is_lost.elim
        · rw [if_neg hname, if_neg hname]
          exact .refused
      · exact hend
      · exact hend

/-- Where flags are read into the closing: they end with its parenthesis. -/
def FlagsLost (p : FlagChange × Char) (joined : List Char) : Prop :=
  p.2 = ')' ∧ joined = ['\\', 'z']

/-- Flags with the character that ends them, in one piece. -/
def flagsOf (off dangling : Bool) (seen : FlagChange) : Reads (FlagChange × Char) := fun text => do
  let (change, stop, rest) ← readFlags off dangling seen text
  return ((change, stop), rest)

theorem flagsOf_stable (off dangling : Bool) (seen : FlagChange) :
    Stable FlagsLost (flagsOf off dangling seen) := by
  intro text
  induction text generalizing off dangling seen with
  | nil =>
      refine .of_error fun p joined h => ?_
      rw [List.nil_append, closing, flagsOf, readFlags, if_pos (Or.inr rfl)] at h
      cases dangling with
      | true => exact absurd h error_ne_ok
      | false =>
          obtain ⟨rfl, rfl⟩ := Prod.mk.inj (Except.ok.inj h)
          exact ⟨rfl, rfl⟩
  | cons c rest ih =>
      rw [List.cons_append, flagsOf, flagsOf, readFlags, readFlags]
      by_cases hstop : c = ':' ∨ c = ')'
      · rw [if_pos hstop, if_pos hstop]
        cases dangling with
        | true => exact .refused
        | false => exact (Stable.ok _ (seen.reverse, c)).after_first c rest
      rw [if_neg hstop, if_neg hstop]
      have hlater : ∀ off dangling seen, Agree FlagsLost (c :: rest)
          (flagsOf off dangling seen rest) (flagsOf off dangling seen (rest ++ closing)) :=
        fun off dangling seen =>
          (ih off dangling seen).mono (fun _ _ hlost => hlost) (List.suffix_cons c rest)
      by_cases hdash : c = '-'
      · rw [if_pos hdash, if_pos hdash]
        cases off with
        | true => exact .refused
        | false => exact hlater true true seen
      rw [if_neg hdash, if_neg hdash]
      cases Flag.ofLetter? c with
      | none => exact .refused
      | some f =>
          by_cases hseen : seen.any (·.1 == f) = true
          · simp only [if_pos hseen]
            exact .refused
          · simp only [if_neg hseen]
            exact hlater off false ((f, !off) :: seen)

/-- Only the mark of the closing is left, so that no group can end any more. -/
def GroupLost {α : Type} (_ : α) (joined : List Char) : Prop :=
  joined = ['\\', 'z']

/-- The group that a name opens. -/
def readNamedGroup : Reads Opening := fun text => do
  let (name, rest) ← readName true text
  return (.group [] (some name), rest)

theorem readNamedGroup_stable {lost : Opening → List Char → Prop} :
    Stable lost readNamedGroup :=
  ((readName_stable true).map (fun name => Opening.group [] (some name)) fun _ _ hlost =>
    hlost).of_never

/-- What flags stand for: those of a group, or flags by themselves. -/
def openingOfFlags (change : FlagChange) (stop : Char) : Except PatternError Opening :=
  if stop = ':' then .ok (.group change none)
  else if change.isEmpty then .error .nothingToRepeat
  else .ok (.flags change)

/-- What flags open. -/
def readFlagged : Reads Opening := fun text => do
  let ((change, stop), rest) ← flagsOf false false [] text
  return (← openingOfFlags change stop, rest)

theorem readFlagged_stable : Stable GroupLost readFlagged :=
  (flagsOf_stable false false []).bind_lift (fun p => openingOfFlags p.1 p.2) (fun _ o => o)
    fun _ _ _ hlost _ => hlost.2

/-- What a question mark and an angle bracket open. -/
def readAngle : Reads Opening :=
  onFirst .badGroupName fun d rest =>
    if d = '=' ∨ d = '!' then .error .lookAround else readNamedGroup (d :: rest)

/-- What a question mark and the letter of a name open. -/
def readLetter : Reads Opening :=
  onFirst (.unknownFlag 'P') fun d rest =>
    if d = '<' then readNamedGroup rest else .error (.unknownFlag 'P')

/-- What a question mark after a parenthesis opens. -/
def readQuestion : Reads Opening :=
  onFirst .unfinishedFlags fun d rest =>
    if d = '=' ∨ d = '!' then .error .lookAround
    else if d = '<' then readAngle rest
    else if d = 'P' then readLetter rest
    else readFlagged (d :: rest)

/-- What a parenthesis opens, after blanks. -/
def openingOf : Reads Opening
  | '?' :: rest => readQuestion rest
  | rest => .ok (.group [] none, rest)

theorem openingOf_of_ne {c : Char} (h : c ≠ '?') (rest : List Char) :
    openingOf (c :: rest) = .ok (.group [] none, c :: rest) := by
  unfold openingOf
  split
  · next heq => exact absurd (List.cons.inj heq).1 h
  · rfl

theorem readFlags_eq (text : List Char) :
    (do
      let (change, stop, rest) ← readFlags false false [] text
      if stop = ':' then return (Opening.group change none, rest)
      if change.isEmpty then throw PatternError.nothingToRepeat
      return (Opening.flags change, rest)) = readFlagged text := by
  unfold readFlagged flagsOf
  cases readFlags false false [] text with
  | error e => rfl
  | ok p =>
      rcases p with ⟨change, stop, rest⟩
      by_cases hstop : stop = ':'
      · subst hstop
        rfl
      · simp only [bind, Except.bind, pure, Except.pure, openingOfFlags, if_neg hstop]
        cases change with
        | nil => rfl
        | cons f change => rfl

theorem readOpening_eq (extended : Bool) (text : List Char) :
    readOpening extended text = openingOf (blanks extended text) := by
  unfold readOpening
  simp only [readFlags_eq]
  rcases blanks extended text with _ | ⟨c, rest⟩
  · rfl
  by_cases hmark : c = '?'
  · subst hmark
    rw [openingOf]
    rcases rest with _ | ⟨d, rest⟩
    · rfl
    rw [readQuestion, onFirst]
    by_cases hlook : d = '=' ∨ d = '!'
    · rcases hlook with rfl | rfl
      · rfl
      · rfl
    rw [if_neg hlook]
    by_cases hangle : d = '<'
    · subst hangle
      rcases rest with _ | ⟨e, rest⟩
      · rfl
      rw [if_pos rfl, readAngle, onFirst]
      by_cases hlook' : e = '=' ∨ e = '!'
      · rcases hlook' with rfl | rfl
        · rfl
        · rfl
      rw [if_neg hlook']
      obtain ⟨hequals, hbang⟩ := not_or.mp hlook'
      split <;> grind [readNamedGroup]
    · rw [if_neg hangle]
      by_cases hname : d = 'P'
      · subst hname
        rw [if_pos rfl]
        rcases rest with _ | ⟨e, rest⟩
        · rfl
        · rw [readLetter, onFirst]
          by_cases hopen : e = '<'
          · subst hopen
            rfl
          · -- The letter is no flag.
            have hunknown : readFlagged ('P' :: e :: rest) = .error (.unknownFlag 'P') := rfl
            rw [if_neg hopen]
            split <;> grind
      · rw [if_neg hname]
        split <;> grind
  · rw [openingOf_of_ne hmark]
    split <;> grind

theorem readAngle_stable {lost : Opening → List Char → Prop} : Stable lost readAngle := by
  refine .onFirst _ (fun c rest => ?_) fun a joined h => ?_
  · by_cases hlook : c = '=' ∨ c = '!'
    · rw [if_pos hlook, if_pos hlook]
      exact .refused
    · rw [if_neg hlook, if_neg hlook]
      exact readNamedGroup_stable (c :: rest)
  · rw [if_neg (by decide)] at h
    exact readNamedGroup_stable.lost_of_closing rfl h

theorem readLetter_stable {lost : Opening → List Char → Prop} : Stable lost readLetter := by
  refine .onFirst _ (fun c rest => ?_) fun a joined h => ?_
  · by_cases hopen : c = '<'
    · rw [if_pos hopen, if_pos hopen]
      exact readNamedGroup_stable.after_first c rest
    · rw [if_neg hopen, if_neg hopen]
      exact .refused
  · rw [if_neg (by decide)] at h
    exact absurd h error_ne_ok

theorem readQuestion_stable : Stable GroupLost readQuestion := by
  refine .onFirst _ (fun c rest => ?_) fun a joined h => ?_
  · by_cases hlook : c = '=' ∨ c = '!'
    · rw [if_pos hlook, if_pos hlook]
      exact .refused
    rw [if_neg hlook, if_neg hlook]
    by_cases hangle : c = '<'
    · rw [if_pos hangle, if_pos hangle]
      exact readAngle_stable.after_first c rest
    rw [if_neg hangle, if_neg hangle]
    by_cases hnamed : c = 'P'
    · rw [if_pos hnamed, if_pos hnamed]
      exact readLetter_stable.after_first c rest
    · rw [if_neg hnamed, if_neg hnamed]
      exact readFlagged_stable (c :: rest)
  · rw [if_neg (by decide), if_neg (by decide), if_neg (by decide)] at h
    exact readFlagged_stable.lost_of_closing rfl h

theorem readOpening_stable (extended : Bool) : Stable GroupLost (readOpening extended) := by
  have hopening : Stable GroupLost openingOf := by
    intro text
    cases text with
    | nil => exact .same (List.suffix_refl []) (Or.inl rfl)
    | cons c rest =>
        by_cases hmark : c = '?'
        · subst hmark
          exact readQuestion_stable.after_first '?' rest
        · rw [List.cons_append, openingOf_of_ne hmark, openingOf_of_ne hmark]
          exact .same (List.suffix_refl _) (Or.inl rfl)
  rw [funext (readOpening_eq extended)]
  exact hopening.after_blanks extended

/-! ## Pieces -/

/-- What a piece does to what has been read. -/
inductive Action where
  /-- Another part comes. -/
  | add (p : Pattern)
  | enter (opening : Opening)
  | leave
  /-- Another branch starts. -/
  | split
  | repeatLast (least : Nat) (most : Option Nat)

/-- What a backslash stands for, as a pattern. -/
def Escaped.toPattern : Escaped → Pattern
  | char l => .char l
  | letter l negated => .letter l negated
  | property q negated => .property q negated
  | anchor a => .anchor a

/-- What a piece does, by the character it starts with. -/
def readAction (extended : Bool) (c : Char) : Reads Action := fun rest =>
  match c with
  | '(' => do
    let (opening, rest) ← readOpening extended rest
    return (.enter opening, rest)
  | ')' => .ok (.leave, rest)
  | '|' => .ok (.split, rest)
  | '[' => do
    let (p, rest) ← readSet extended rest
    return (.add p, rest)
  | '?' => .ok (.repeatLast 0 (some 1), passLazyMark rest)
  | '*' => .ok (.repeatLast 0 none, passLazyMark rest)
  | '+' => .ok (.repeatLast 1 none, passLazyMark rest)
  | '\x7b' => do
    let ((least, most), rest) ← readCount extended rest
    return (.repeatLast least most, rest)
  | '\\' => do
    let (e, rest) ← readEscape extended rest
    return (.add e.toPattern, rest)
  | '.' => .ok (.add .dot, rest)
  | '^' => .ok (.add (.anchor .lineStart), rest)
  | '$' => .ok (.add (.anchor .lineEnd), rest)
  | c => .ok (.add (.char ⟨c, false⟩), rest)

/-- Carries out what a piece does. -/
def act (r : PatternReader) : Action → Except PatternError PatternReader
  | .add p => .ok (r.add p)
  | .enter opening => r.enter opening
  | .leave => r.leave
  | .split => .ok { r with level := r.level.split }
  | .repeatLast least most => r.repeatLast least most

/-- A piece is read without regard to what has been read before, and then carried out. -/
theorem step_eq (r : PatternReader) (c : Char) (rest : List Char) :
    r.step c rest = do
      let (action, rest) ← readAction r.extended c rest
      return (← r.act action, rest) := by
  unfold step
  split
  · rw [readAction]
    cases readOpening r.extended rest with
    | error e => rfl
    | ok p => rfl
  · rfl
  · rfl
  · rw [readAction]
    cases readSet r.extended rest with
    | error e => rfl
    | ok p => rfl
  · rfl
  · rfl
  · rfl
  · rw [readAction]
    cases readCount r.extended rest with
    | error e => rfl
    | ok p => rfl
  · rw [readAction]
    cases readEscape r.extended rest with
    | error e => rfl
    | ok p =>
        rcases p with ⟨e, left⟩
        cases e with
        | char l => rfl
        | letter l negated => rfl
        | property q negated => rfl
        | anchor a => rfl
  · rfl
  · rfl
  · rfl
  · -- A character without a meaning of its own has none for the reader either.
    rw [readAction]
    · rfl
    all_goals assumption

/-- What a piece is read as in the closing. The parenthesis of the closing is gone then, or a brace
    is next that opens no bounds. -/
def ActionLost (extended : Bool) (action : Action) (joined : List Char) : Prop :=
  ')' ∉ joined ∨ ∃ a, action = .add (.anchor a) ∧ EdgeLost extended a joined

theorem ActionLost.of_mark {extended : Bool} {action : Action} :
    ActionLost extended action ['\\', 'z'] :=
  Or.inl (by decide)

theorem readAction_stable (extended : Bool) (c : Char) :
    Stable (ActionLost extended) (readAction extended c) := by
  have hrepeat : ∀ least most, Stable (ActionLost extended) fun rest =>
      .ok (.repeatLast least most, passLazyMark rest) := fun least most =>
    (Stable.ok _ (Action.repeatLast least most)).comp passLazyMark_suffix
      fun text => Or.inl (passLazyMark_append_closing text)
  unfold readAction
  split
  · exact (readOpening_stable extended).map Action.enter fun _ _ hlost => hlost ▸ .of_mark
  · exact .ok _ _
  · exact .ok _ _
  · exact (readSet_stable extended).map Action.add fun _ _ hlost => hlost.elim
  · exact hrepeat _ _
  · exact hrepeat _ _
  · exact hrepeat _ _
  · exact (readCount_stable extended).map (fun p => Action.repeatLast p.1 p.2)
      fun _ _ hlost => hlost.elim
  · refine (readEscape_stable extended).map (fun e => Action.add e.toPattern)
      fun e joined hlost => ?_
    rcases hlost with rfl | ⟨a, rfl, hlost⟩
    · exact .of_mark
    · exact Or.inr ⟨a, rfl, hlost⟩
  · exact .ok _ _
  · exact .ok _ _
  · exact .ok _ _
  · exact .ok _ _

end PatternReader

end CloneScan
