import ModalKeys.Editor

/-!
# Responses leaf by leaf

A response is a tree. To carry it out is to carry out its leaves from left to right, and none is left out, not
even behind one that passes the key through.
-/

namespace ModalKeys

namespace Response

/-- The response is not made of others. What a deferral holds back is no part of it yet. -/
def IsLeaf : Response → Prop
  | .all _ => False
  | .switchMode _ | .inject _ | .run _ | .defer _ | .consume | .passThrough => True

mutual

def leaves : Response → List Response
  | .all responses => leavesAll responses
  | leaf => [leaf]

def leavesAll : List Response → List Response
  | [] => []
  | response :: rest => leaves response ++ leavesAll rest

end

mutual

theorem isLeaf_of_mem_leaves (response : Response) : ∀ leaf ∈ response.leaves, leaf.IsLeaf := by
  match response with
  | .all responses => exact isLeaf_of_mem_leavesAll responses
  | .switchMode _ | .inject _ | .run _ | .defer _ | .consume | .passThrough =>
      exact List.forall_mem_singleton.mpr trivial

theorem isLeaf_of_mem_leavesAll (responses : List Response) : ∀ leaf ∈ leavesAll responses, leaf.IsLeaf := by
  match responses with
  | [] => nofun
  | response :: rest =>
      exact List.forall_mem_append.mpr ⟨isLeaf_of_mem_leaves response, isLeaf_of_mem_leavesAll rest⟩

end

mutual

/-- A key is kept from the control unless one of the leaves passes it through. -/
theorem intercepts_iff (response : Response) : response.intercepts = true ↔ .passThrough ∉ response.leaves := by
  match response with
  | .all responses => exact interceptsAll_iff responses
  | .passThrough => exact iff_of_false Bool.false_ne_true fun passes => passes List.mem_cons_self
  | .switchMode _ | .inject _ | .run _ | .defer _ | .consume =>
      exact iff_of_true rfl fun passes => by cases List.mem_singleton.mp passes

theorem interceptsAll_iff (responses : List Response) :
    interceptsAll responses = true ↔ .passThrough ∉ leavesAll responses := by
  match responses with
  | [] => exact iff_of_true rfl nofun
  | response :: rest =>
      rw [interceptsAll, Bool.and_eq_true, intercepts_iff response, interceptsAll_iff rest, leavesAll,
        List.mem_append, not_or]

end

end Response

namespace Editor

variable {κ : Type} [Control κ]

/-- Carries out responses one after another, whatever they say about the key. -/
def respondEach (e : Editor κ) (responses : List Response) (now : Nat) : Editor κ :=
  responses.foldl (fun before response => (respond response before now).1) e

theorem respondEach_append (e : Editor κ) (first second : List Response) (now : Nat) :
    e.respondEach (first ++ second) now = (e.respondEach first now).respondEach second now :=
  List.foldl_append

mutual

theorem respond_eq_respondEach (response : Response) (e : Editor κ) (now : Nat) :
    respond response e now = (e.respondEach response.leaves now, response.intercepts) := by
  match response with
  | .all responses => exact respondAll_eq_respondEach responses e now
  | .switchMode _ | .inject _ | .run _ | .defer _ | .consume | .passThrough => rfl

theorem respondAll_eq_respondEach (responses : List Response) (e : Editor κ) (now : Nat) :
    respondAll responses e now =
      (e.respondEach (Response.leavesAll responses) now, Response.interceptsAll responses) := by
  match responses with
  | [] => rfl
  | response :: rest =>
      simp only [respondAll, respond_eq_respondEach response e now, respondAll_eq_respondEach rest _ now,
        Response.leavesAll, respondEach_append, Response.interceptsAll]

end

/-- Each leaf keeps a property, and so does any change of what is deferred. -/
structure LeavesKeep (now : Nat) (P : Editor κ → Prop) : Prop where
  leaf : ∀ {e : Editor κ} (leaf : Response), leaf.IsLeaf → P e → P (Editor.respond leaf e now).1
  queue : ∀ {e : Editor κ} (queue : List Deferred), P e → P { e with queue := queue }

namespace LeavesKeep

variable {now : Nat} {P : Editor κ → Prop} {e : Editor κ}

theorem respondEach (keep : LeavesKeep now P) {leaves : List Response} (leaf : ∀ leaf ∈ leaves, leaf.IsLeaf)
    (holds : P e) : P (e.respondEach leaves now) := by
  induction leaves generalizing e with
  | nil => exact holds
  | cons first rest ih =>
      obtain ⟨isLeaf, later⟩ := List.forall_mem_cons.mp leaf
      exact ih later (keep.leaf first isLeaf holds)

theorem respond (keep : LeavesKeep now P) (response : Response) (holds : P e) :
    P (Editor.respond response e now).1 := by
  rw [respond_eq_respondEach]
  exact keep.respondEach response.isLeaf_of_mem_leaves holds

theorem runDue (keep : LeavesKeep now P) (holds : P e) : P (e.runDue now) := by
  fun_induction Editor.runDue e now with
  | case1 e nothing => exact holds
  | case2 e entry rest taken ih => exact ih (keep.respond entry.response (keep.queue rest holds))

theorem runDeferred (keep : LeavesKeep now P) (holds : P e) : P (e.runDeferred now) := by
  fun_induction Editor.runDeferred e now with
  | case1 e nothing => exact holds
  | case2 e entry rest queued ih => exact ih (keep.respond entry.response (keep.queue rest holds))

end LeavesKeep

/-- A response does what its leaves do one after another, however deep they lie, and it keeps the key from the
control just when no leaf passes it through. -/
theorem respond_leaf_by_leaf (response : Response) (e : Editor κ) (now : Nat) :
    respond response e now = (e.respondEach response.leaves now, response.intercepts) ∧
      (∀ leaf ∈ response.leaves, leaf.IsLeaf) ∧
      (response.intercepts = true ↔ .passThrough ∉ response.leaves) :=
  ⟨respond_eq_respondEach response e now, response.isLeaf_of_mem_leaves, response.intercepts_iff⟩

end Editor

end ModalKeys
