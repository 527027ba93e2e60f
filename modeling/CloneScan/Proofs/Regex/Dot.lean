import CloneScan.Proofs.Regex.Closing
import CloneScan.Regex.Meaning

/-!
# The Meaning of a Dot

A pattern may be read under flags that give a dot another meaning. What it matches can change then,
but not whether it is an expression at all: what is refused is refused because the flags speak of
bytes, and that is the same for a dot of either meaning. Flags change along a pattern, so the
statement is about flags that are alike where the pattern starts, and says that those after it are
alike again.

## Main definitions

* `Flags.Alike`: Flags that differ in the meaning of a dot alone.

## Theorems

* `SetExpr.toSet_alike`: A set has the same members.
* `Pattern.toRegex_alike`: The meaning of a dot does not decide whether there is an expression.
-/

namespace CloneScan

/-- Flags that differ in the meaning of a dot alone. -/
structure Flags.Alike (f g : Flags) : Prop where
  ignoreCase : f.ignoreCase = g.ignoreCase
  multiLine : f.multiLine = g.multiLine
  unicode : f.unicode = g.unicode
  crlf : f.crlf = g.crlf

namespace Flags.Alike

variable {f g : Flags}

theorem symm (h : f.Alike g) : g.Alike f :=
  ⟨h.ignoreCase.symm, h.multiLine.symm, h.unicode.symm, h.crlf.symm⟩

theorem set (h : f.Alike g) (flag : Flag) (on : Bool) : (f.set flag on).Alike (g.set flag on) := by
  cases flag with
  | ignoreCase => exact { h with ignoreCase := rfl }
  | multiLine => exact { h with multiLine := rfl }
  | dotAll => exact ⟨h.ignoreCase, h.multiLine, h.unicode, h.crlf⟩
  | unicode => exact { h with unicode := rfl }
  | crlf => exact { h with crlf := rfl }
  | lazily => exact h
  | extended => exact h

theorem apply (h : f.Alike g) (change : FlagChange) : (f.apply change).Alike (g.apply change) := by
  induction change generalizing f g with
  | nil => exact h
  | cons c rest ih => exact ih (h.set c.1 c.2)

theorem foldFor (h : f.Alike g) (s : CharSet) : s.foldFor f = s.foldFor g := by
  rw [CharSet.foldFor, CharSet.foldFor, h.ignoreCase, h.unicode]

theorem check (h : f.Alike g) (s : CharSet) : s.check f = s.check g := by
  rw [CharSet.check, CharSet.check, h.unicode]

theorem toSetFor (h : f.Alike g) (l : ClassLetter) (negated : Bool) :
    l.toSetFor f negated = l.toSetFor g negated := by
  rw [ClassLetter.toSetFor, ClassLetter.toSetFor, h.unicode, h.check]

theorem propertySet (h : f.Alike g) (q : PropertyQuery) (negated : Bool) :
    q.toSetFor f negated = q.toSetFor g negated := by
  rw [PropertyQuery.toSetFor, PropertyQuery.toSetFor, h.unicode]
  simp only [h.foldFor]

theorem inSet (h : f.Alike g) (l : Literal) : l.inSet f = l.inSet g := by
  rw [Literal.inSet, Literal.inSet, h.unicode]

theorem charSet (h : f.Alike g) (l : Literal) : l.toSet f = l.toSet g := by
  rw [Literal.toSet, Literal.toSet, h.unicode, h.foldFor]

-- A dot of any meaning is refused where the flags speak of bytes.
theorem dot (h : f.Alike g) {s : CharSet} (hs : f.dot = .ok s) : ∃ t, g.dot = .ok t := by
  rw [Flags.dot] at hs ⊢
  rw [← h.unicode]
  cases hunicode : f.unicode with
  | false => rw [hunicode] at hs; exact absurd hs PatternReader.error_ne_ok
  | true =>
      cases g.dotAll with
      | true => exact ⟨_, rfl⟩
      | false =>
          cases g.crlf with
          | true => exact ⟨_, rfl⟩
          | false => exact ⟨_, rfl⟩

end Flags.Alike

namespace SetExpr

mutual

theorem toSet_alike {f g : Flags} (h : f.Alike g) (s : SetExpr) : s.toSet f = s.toSet g := by
  cases s with
  | nothing => rfl
  | char l => rw [toSet, toSet, h.inSet]
  | range first last => rw [toSet, toSet, h.inSet, h.inSet]
  | named s negated => rw [toSet, toSet, h.foldFor, h.check]
  | letter l negated => exact h.toSetFor l negated
  | property q negated => exact h.propertySet q negated
  | union ss => exact unionOf_alike h ss
  | bracket negated s =>
      rw [toSet, toSet, toSet_alike h s]
      simp only [h.foldFor, h.check]
  | op kind s t =>
      rw [toSet, toSet, toSet_alike h s, toSet_alike h t]
      simp only [h.foldFor]

theorem unionOf_alike {f g : Flags} (h : f.Alike g) (ss : List SetExpr) :
    unionOf f ss = unionOf g ss := by
  cases ss with
  | nil => rfl
  | cons s ss => rw [unionOf, unionOf, toSet_alike h s, unionOf_alike h ss]

end

end SetExpr

namespace Pattern

open PatternReader

/-- The same set of characters is an expression under both flags, and changes neither. -/
theorem exists_one_alike {f g after : Flags} {r : Regex}
    {members members' : Except PatternError CharSet} (h : f.Alike g) (hmembers : members = members')
    (hr : (do return (Regex.one (← members), f)) = Except.ok (r, after)) :
    ∃ s after', (do return (Regex.one (← members'), g)) = Except.ok (s, after') ∧
      after.Alike after' := by
  rcases bind_eq_ok.mp hr with ⟨s, hs, hpair⟩
  obtain ⟨rfl, rfl⟩ := Prod.mk.inj (Except.ok.inj hpair)
  exact ⟨.one s, g, bind_eq_ok.mpr ⟨s, hmembers ▸ hs, rfl⟩, h⟩

mutual

/-- The meaning of a dot does not decide whether there is an expression. -/
theorem toRegex_alike {f g after : Flags} {r : Regex} {p : Pattern} (h : f.Alike g)
    (hr : p.toRegex f = .ok (r, after)) :
    ∃ s after', p.toRegex g = .ok (s, after') ∧ after.Alike after' := by
  -- A part starts with the flags that the one before it ends with, so these have to be alike too.
  cases p with
  | empty =>
      obtain ⟨rfl, rfl⟩ := Prod.mk.inj (Except.ok.inj hr)
      exact ⟨.empty, g, rfl, h⟩
  | flags change =>
      obtain ⟨rfl, rfl⟩ := Prod.mk.inj (Except.ok.inj hr)
      exact ⟨.empty, g.apply change, rfl, h.apply change⟩
  | anchor a =>
      obtain ⟨rfl, rfl⟩ := Prod.mk.inj (Except.ok.inj hr)
      exact ⟨.look (a.toLook g), g, rfl, h⟩
  | char l => exact exists_one_alike h (h.charSet l) hr
  | dot =>
      rcases bind_eq_ok.mp hr with ⟨s, hs, hpair⟩
      obtain ⟨rfl, rfl⟩ := Prod.mk.inj (Except.ok.inj hpair)
      rcases h.dot hs with ⟨t, ht⟩
      exact ⟨.one t, g, bind_eq_ok.mpr ⟨t, ht, rfl⟩, h⟩
  | letter l negated => exact exists_one_alike h (h.toSetFor l negated) hr
  | property q negated => exact exists_one_alike h (h.propertySet q negated) hr
  | set negated s =>
      rcases bind_eq_ok.mp hr with ⟨members, hset, hone⟩
      have hcheck : ((members.foldFor f).negateIf negated).check f
          = ((members.foldFor g).negateIf negated).check g := by
        rw [h.foldFor, h.check]
      rcases exists_one_alike h hcheck hone with ⟨t, last, ht, hlast⟩
      exact ⟨t, last, bind_eq_ok.mpr ⟨members, (s.toSet_alike h) ▸ hset, ht⟩, hlast⟩
  | repeated p least most =>
      rcases bind_eq_ok.mp hr with ⟨⟨body, last⟩, hbody, hpair⟩
      obtain ⟨rfl, rfl⟩ := Prod.mk.inj (Except.ok.inj hpair)
      rcases toRegex_alike h hbody with ⟨s, last', hs, hlast⟩
      exact ⟨.repeated s least most, last', bind_eq_ok.mpr ⟨(s, last'), hs, rfl⟩, hlast⟩
  | group change p =>
      rcases bind_eq_ok.mp hr with ⟨⟨body, last⟩, hbody, hpair⟩
      obtain ⟨rfl, rfl⟩ := Prod.mk.inj (Except.ok.inj hpair)
      rcases toRegex_alike (h.apply change) hbody with ⟨s, last', hs, _⟩
      exact ⟨s, g, bind_eq_ok.mpr ⟨(s, last'), hs, rfl⟩, h⟩
  | concat ps => exact concatOf_alike h hr
  | branches ps => exact branchesOf_alike h hr

theorem concatOf_alike {f g after : Flags} {r : Regex} {ps : List Pattern} (h : f.Alike g)
    (hr : concatOf f ps = .ok (r, after)) :
    ∃ s after', concatOf g ps = .ok (s, after') ∧ after.Alike after' := by
  cases ps with
  | nil =>
      obtain ⟨rfl, rfl⟩ := Prod.mk.inj (Except.ok.inj hr)
      exact ⟨.empty, g, rfl, h⟩
  | cons p ps =>
      rcases bind_eq_ok.mp hr with ⟨⟨first, between⟩, hfirst, hrest⟩
      rcases bind_eq_ok.mp hrest with ⟨⟨second, last⟩, hsecond, hpair⟩
      obtain ⟨rfl, rfl⟩ := Prod.mk.inj (Except.ok.inj hpair)
      rcases toRegex_alike h hfirst with ⟨s, between', hs, hbetween⟩
      rcases concatOf_alike hbetween hsecond with ⟨t, last', ht, hlast⟩
      exact ⟨.seq s t, last',
        bind_eq_ok.mpr ⟨(s, between'), hs, bind_eq_ok.mpr ⟨(t, last'), ht, rfl⟩⟩, hlast⟩

theorem branchesOf_alike {f g after : Flags} {r : Regex} {ps : List Pattern} (h : f.Alike g)
    (hr : branchesOf f ps = .ok (r, after)) :
    ∃ s after', branchesOf g ps = .ok (s, after') ∧ after.Alike after' := by
  cases ps with
  | nil =>
      obtain ⟨rfl, rfl⟩ := Prod.mk.inj (Except.ok.inj hr)
      exact ⟨.one .empty, g, rfl, h⟩
  | cons p ps =>
      rcases bind_eq_ok.mp hr with ⟨⟨first, between⟩, hfirst, hrest⟩
      rcases bind_eq_ok.mp hrest with ⟨⟨second, last⟩, hsecond, hpair⟩
      obtain ⟨rfl, rfl⟩ := Prod.mk.inj (Except.ok.inj hpair)
      rcases toRegex_alike h hfirst with ⟨s, between', hs, hbetween⟩
      rcases branchesOf_alike hbetween hsecond with ⟨t, last', ht, hlast⟩
      exact ⟨.alt s t, last',
        bind_eq_ok.mpr ⟨(s, between'), hs, bind_eq_ok.mpr ⟨(t, last'), ht, rfl⟩⟩, hlast⟩

end

end Pattern

end CloneScan
