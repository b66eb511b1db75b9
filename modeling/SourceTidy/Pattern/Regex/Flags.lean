import SourceTidy.Text.Basic

/-!
# Switches of regular expressions

Letters at the start of a pattern or of a group turn switches on and off. Of the three for the kind
of characters only one can be on.
-/

namespace SourceTidy

structure RegexFlags where
  ignoreCase : Bool := false
  multiline : Bool := false
  dotAll : Bool := false
  verbose : Bool := false
  ascii : Bool := false
  unicode : Bool := false
  locale : Bool := false
  template : Bool := false
  deriving DecidableEq, Repr

namespace RegexFlags

def ofLetter? (c : Char) : Option RegexFlags :=
  if c == 'i' then some { ignoreCase := true }
  else if c == 'm' then some { multiline := true }
  else if c == 's' then some { dotAll := true }
  else if c == 'x' then some { verbose := true }
  else if c == 'a' then some { ascii := true }
  else if c == 'u' then some { unicode := true }
  else if c == 'L' then some { locale := true }
  else if c == 't' then some { template := true }
  else none

def zip (f : Bool → Bool → Bool) (a b : RegexFlags) : RegexFlags where
  ignoreCase := f a.ignoreCase b.ignoreCase
  multiline := f a.multiline b.multiline
  dotAll := f a.dotAll b.dotAll
  verbose := f a.verbose b.verbose
  ascii := f a.ascii b.ascii
  unicode := f a.unicode b.unicode
  locale := f a.locale b.locale
  template := f a.template b.template

def union (a b : RegexFlags) : RegexFlags := zip (· || ·) a b

def meets (a b : RegexFlags) : Bool := zip (· && ·) a b != {}

def hasKind (a : RegexFlags) : Bool := a.ascii || a.unicode || a.locale

/-- How many of the switches that choose the kind of characters are on. -/
def kinds (a : RegexFlags) : Nat := a.ascii.toNat + a.unicode.toNat + a.locale.toNat

/-- The switches in a group that turns some on and some off. A new kind of characters replaces the old. -/
def within (outer on off : RegexFlags) : RegexFlags :=
  let outer :=
    if on.hasKind then { outer with ascii := false, unicode := false, locale := false } else outer
  zip (fun a b => a && !b) (union outer on) off

theorem union_none (a : RegexFlags) : a.union {} = a := by
  simp [union, zip]

theorem eq_none_of_union {a b : RegexFlags} (h : a.union b = {}) : a = {} ∧ b = {} := by
  cases a
  cases b
  simp only [union, zip, mk.injEq, Bool.or_eq_false_iff] at h
  simp [h]

end RegexFlags

end SourceTidy
