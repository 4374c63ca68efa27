import ModalKeys.Keyboard.Keystroke

/-!
# Plans of strokes

What a command or a change of mode sends to the control: some strokes at once, and some after the
control has had time to settle. The block cursor of Normal mode is such a late stroke. Among the
strokes at once one group can be repeated. How many strokes that makes is counted with 64 bits, and
a plan for which they are not enough cannot be carried out.
-/

namespace ModalKeys

def repeated (strokes : List Keystroke) (count : Nat) : List Keystroke :=
  (List.replicate count strokes).flatten

theorem repeated_succ (strokes : List Keystroke) (count : Nat) :
    repeated strokes (count + 1) = strokes ++ repeated strokes count := rfl

theorem length_repeated (strokes : List Keystroke) (count : Nat) :
    (repeated strokes count).length = strokes.length * count := by
  simp [repeated, Nat.mul_comm]

structure Plan where
  before : List Keystroke := []
  group : List Keystroke := []
  times : Nat := 0
  after : List Keystroke := []
  settled : List Keystroke := []
  /-- The offsets that planning added up are 64-bit numbers. -/
  inRange : Bool := true
deriving DecidableEq, Repr

namespace Plan

def empty : Plan := {}

/-- Only strokes sent at once, and none of them repeated. -/
def atOnce (strokes : List Keystroke) : Plan := { before := strokes }

def repeating (group : List Keystroke) (times : Nat) : Plan := { group, times }

/-- After a left arrow that collapses a selection onto its start, a group of strokes over and over. -/
def collapsing (group : List Keystroke) (times : Nat) : Plan :=
  { before := [.plain .left], group, times }

def thenBlockRight (plan : Plan) : Plan := { plan with settled := [.shifted .right] }

def thenBlockLeft (plan : Plan) : Plan := { plan with settled := [.shifted .left] }

def now (plan : Plan) : List Keystroke := plan.before ++ repeated plan.group plan.times ++ plan.after

/-- How many of the strokes are repeated ones. -/
def total (plan : Plan) : Nat := plan.group.length * plan.times

/-- 64 bits are enough for the offsets and for the number of repeated strokes. A single stroke is
repeated `times` times, and that is a 64-bit number. -/
def fits (plan : Plan) : Bool :=
  plan.inRange && (plan.group.length ≤ 1 || plan.total < UInt64.size)

@[simp] theorem now_repeating (group : List Keystroke) (times : Nat) :
    (repeating group times).now = repeated group times :=
  List.append_nil _

@[simp] theorem now_collapsing (group : List Keystroke) (times : Nat) :
    (collapsing group times).now = .plain .left :: repeated group times :=
  List.append_nil _

theorem length_now (plan : Plan) :
    plan.now.length = plan.before.length + plan.total + plan.after.length := by
  simp only [now, total, List.length_append, length_repeated]

/-- A single stroke can be repeated as often as one can count. -/
theorem fits_of_single {plan : Plan} (inRange : plan.inRange = true) (single : plan.group.length ≤ 1) :
    plan.fits = true := by
  simp [fits, inRange, single]

end Plan

end ModalKeys
