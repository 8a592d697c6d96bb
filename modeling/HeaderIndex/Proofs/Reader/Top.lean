import HeaderIndex.Reader.Run

/-!
# What the list of top-level cursors decides

Cursors and types refer to each other through tables.  The list of top-level cursors says which
declarations are read and where the gaps in front of them start, and nothing else.

* `withTop` — a unit with another list of top-level cursors.
* `resolve_withTop`, `resolveMember_withTop` — types are resolved without the list.
* `readDeclaration_withTop` — and so is each single declaration read.

Looking up a cursor, a type or a token is the same by definition; the lemmas here follow the
recursions on top of that.
-/

namespace HeaderIndex

/-- A unit with other top-level cursors. -/
def ParsedUnit.withTop (unit : ParsedUnit) (top : List Nat) : ParsedUnit := { unit with top }

/-- The resolver for a unit with other top-level cursors. -/
def Resolver.withTop (r : Resolver) (top : List Nat) : Resolver :=
  { r with unit := r.unit.withTop top }

namespace Resolver

variable (r : Resolver) (top : List Nat)

theorem nameBehind_withTop : (r.withTop top).nameBehind = r.nameBehind := by
  funext levels
  induction levels with
  | zero => rfl
  | succ levels ih =>
    funext reference depth
    simp only [nameBehind, ih]
    rfl

theorem namedPointer_withTop : (r.withTop top).namedPointer = r.namedPointer := by
  funext named depth
  simp only [namedPointer, nameBehind_withTop]
  rfl

theorem pointer_withTop : (r.withTop top).pointer = r.pointer := by
  funext named pointee depth index
  simp only [pointer, namedPointer_withTop]
  rfl

theorem resolveWithin_withTop : (r.withTop top).resolveWithin = r.resolveWithin := by
  funext levels
  induction levels with
  | zero => rfl
  | succ levels ih =>
    funext reference index
    simp only [resolveWithin, ih, pointer_withTop]
    rfl

/-- **Types are resolved without the list of top-level cursors.** -/
theorem resolve_withTop : (r.withTop top).resolve = r.resolve := by
  funext type
  simp only [resolve, resolveWithin_withTop]
  rfl

theorem resolveMember_withTop : (r.withTop top).resolveMember = r.resolveMember := by
  funext type index
  simp only [resolveMember, resolve_withTop]
  rfl

theorem endOfPointers_withTop : (r.withTop top).endOfPointers = r.endOfPointers := by
  funext levels
  induction levels with
  | zero => rfl
  | succ levels ih =>
    funext reference
    simp only [endOfPointers, ih]
    rfl

theorem pointeeAggregate?_withTop : (r.withTop top).pointeeAggregate? = r.pointeeAggregate? := by
  funext type index
  simp only [pointeeAggregate?, endOfPointers_withTop]
  rfl

end Resolver

namespace Reader

variable (config : Config) (r : Resolver) (unit : ParsedUnit) (top : List Nat)

/-! ## Structures, unions and enumerations -/

theorem membersFrom_withTop : membersFrom (unit.withTop top) = membersFrom unit := by
  funext stop previous children
  -- what a child is and which comment it has is looked up in the tables
  have hfield : isField (unit.withTop top) = isField unit := rfl
  have hcomment : ∀ previous rest child,
      fieldComment (unit.withTop top) previous (followingLocation (unit.withTop top) stop rest)
          ((unit.withTop top).cursor child) =
        fieldComment unit previous (followingLocation unit stop rest) (unit.cursor child) :=
    fun _ _ _ => rfl
  fun_induction membersFrom unit stop previous children with
  | case1 => rfl
  | case2 previous child rest hf description next hc ih =>
    rw [membersFrom.eq_def]
    simp only [hfield, hcomment, hf, hc, if_true, ih]
  | case3 previous child hf =>
    rw [membersFrom, hfield, if_neg hf]
  | case4 previous child hf field more hmore description next hc ih =>
    rw [membersFrom, hfield, if_neg hf, if_pos hmore]
    simp only [hcomment, hc, ih]
  | case5 previous child hf field more hmore ih =>
    rw [membersFrom, hfield, if_neg hf, if_neg hmore, ih]

theorem members_withTop (cursor : Cursor) :
    members (unit.withTop top) cursor = members unit cursor := by
  simp only [members, membersFrom_withTop]
  rfl

theorem readMember_withTop : readMember (r.withTop top) = readMember r := by
  funext read id member
  cases member with
  | nested cursor => rfl
  | field nested cursor description =>
    simp only [readMember, Resolver.resolveMember_withTop]
    rfl

theorem readAggregate_withTop : readAggregate (r.withTop top) = readAggregate r := by
  have hmembers : members (r.withTop top).unit = members r.unit := by
    funext cursor
    exact members_withTop r.unit top cursor
  funext read cursor comment
  simp only [readAggregate, hmembers, readMember_withTop]
  rfl

theorem readTagWithin_withTop : readTagWithin (r.withTop top) = readTagWithin r := by
  funext levels
  induction levels with
  | zero => rfl
  | succ levels ih =>
    funext position comment
    simp only [readTagWithin, ih, readAggregate_withTop]
    rfl

theorem readTag_withTop : readTag (r.withTop top) = readTag r := by
  funext position comment
  simp only [readTag, readTagWithin_withTop]
  rfl

/-! ## Functions and callbacks -/

theorem readParameter_withTop : readParameter (r.withTop top) = readParameter r := by
  funext cursor
  simp only [readParameter, Resolver.resolve_withTop]
  rfl

theorem readCallbackParameter_withTop :
    readCallbackParameter (r.withTop top) = readCallbackParameter r := by
  funext argument
  rcases argument with ⟨type, _ | cursor⟩ <;>
    simp only [readCallbackParameter, Resolver.resolve_withTop]
  rfl

theorem groupMethod_withTop : groupMethod (r.withTop top) = groupMethod r := by
  funext function name first
  simp only [groupMethod, Resolver.pointeeAggregate?_withTop]

theorem readFunction_withTop : readFunction config (r.withTop top) = readFunction config r := by
  funext position comment
  simp only [readFunction, Resolver.resolve_withTop, readParameter_withTop, groupMethod_withTop]
  rfl

theorem readCallback_withTop : readCallback (r.withTop top) = readCallback r := by
  funext cursor comment
  simp only [readCallback, Resolver.resolve_withTop, readCallbackParameter_withTop]
  rfl

theorem readTypedef_withTop : readTypedef (r.withTop top) = readTypedef r := by
  funext cursor comment
  simp only [readTypedef, readCallback_withTop]
  rfl

/-! ## Declarations and gaps -/

/-- **A declaration is read without the list of top-level cursors.** -/
theorem readDeclaration_withTop :
    readDeclaration config (r.withTop top) = readDeclaration config r := by
  funext position comment
  simp only [readDeclaration, readTag_withTop, readFunction_withTop, readTypedef_withTop]
  rfl

theorem readTop_withTop : readTop config (r.withTop top) = readTop config r := by
  funext declaration
  simp only [readTop, readDeclaration_withTop]
  rfl

/-- Where gaps start depends on the list that is gone through, and on no other. -/
theorem gapsFrom_withTop : gapsFrom (unit.withTop top) = gapsFrom unit := by
  funext ends positions
  induction positions generalizing ends with
  | nil => rfl
  | cons position rest ih =>
    simp only [gapsFrom, ih]
    rfl

end Reader

end HeaderIndex
