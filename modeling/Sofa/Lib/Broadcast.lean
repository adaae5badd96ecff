import Mathlib.Data.List.Basic
import Mathlib.Data.List.Infix

/-! # A broadcast medium

    A medium carries messages in one order, each with the member that put it there.  A member
    joins at a position of this order, may leave at a later one, and hears what the others put
    there in between.

    * `heard_concat`, `said_concat`: one more message;
    * `heard_append_of_left`: a member that has left hears nothing more;
    * **`total_order`**: of what neither of two members said, the one that joined later heard a
      suffix of what the other heard;
    * `Carried`: what a connection that may be cut in some messages hands on of them
      (`Carried.mono`, `Carried.eq_flatMap`). -/

namespace Broadcast

variable {ι μ : Type*} [DecidableEq ι]

/-- A message, and the member it comes from if it comes from one. -/
structure Entry (ι μ : Type*) where
  origin : Option ι
  message : μ

/-- The member put this message there. -/
def Entry.own (me : ι) (e : Entry ι μ) : Bool := decide (e.origin = some me)

/-- What the member has said. -/
def said (me : ι) (log : List (Entry ι μ)) : List (Entry ι μ) := log.filter (Entry.own me)

/-- What the others have said. -/
def others (me : ι) (log : List (Entry ι μ)) : List (Entry ι μ) :=
  log.filter fun e => !e.own me

/-- The part of the log while a member was there. -/
def during (joined : Nat) (left : Option Nat) (log : List (Entry ι μ)) : List (Entry ι μ) :=
  ((left.elim log log.take)).drop joined

/-- What a member has heard: what the others said while it was there. -/
def heard (me : ι) (joined : Nat) (left : Option Nat) (log : List (Entry ι μ)) :
    List (Entry ι μ) :=
  others me (during joined left log)

section Laws

variable {me : ι} {joined : Nat} {log : List (Entry ι μ)} {e : Entry ι μ}

theorem own_iff : e.own me = true ↔ e.origin = some me := by
  rw [Entry.own, decide_eq_true_eq]

@[simp] theorem said_nil : said me ([] : List (Entry ι μ)) = [] := rfl

theorem said_concat : said me (log ++ [e]) = said me log ++ (if e.own me then [e] else []) := by
  rw [said, List.filter_append, List.filter_singleton, Bool.cond_eq_ite]
  rfl

theorem said_concat_own (h : e.origin = some me) : said me (log ++ [e]) = said me log ++ [e] := by
  rw [said_concat, if_pos (own_iff.mpr h)]

theorem said_concat_other (h : e.origin ≠ some me) : said me (log ++ [e]) = said me log := by
  rw [said_concat, if_neg (fun hown => h (own_iff.mp hown)), List.append_nil]

/-- Nobody has said anything whose messages are not there. -/
theorem said_eq_nil (h : ∀ e ∈ log, e.origin ≠ some me) : said me log = [] := by
  rw [said, List.filter_eq_nil_iff]
  intro e he hown
  exact h e he (own_iff.mp hown)

/-- A member that joins now has heard nothing. -/
theorem heard_start : heard me log.length none log = [] := by
  rw [heard, during, Option.elim_none, List.drop_length, others, List.filter_nil]

theorem heard_concat (h : joined ≤ log.length) :
    heard me joined none (log ++ [e])
      = heard me joined none log ++ (if e.own me then [] else [e]) := by
  rw [heard, heard, during, during, Option.elim_none, Option.elim_none,
    List.drop_append_of_le_length h, others, others, List.filter_append, List.filter_singleton]
  cases e.own me <;> rfl

theorem heard_concat_own (h : joined ≤ log.length) (hown : e.origin = some me) :
    heard me joined none (log ++ [e]) = heard me joined none log := by
  rw [heard_concat h, if_pos (own_iff.mpr hown), List.append_nil]

theorem heard_concat_other (h : joined ≤ log.length) (hother : e.origin ≠ some me) :
    heard me joined none (log ++ [e]) = heard me joined none log ++ [e] := by
  rw [heard_concat h, if_neg (fun hown => hother (own_iff.mp hown))]

/-- A member that leaves now has heard what it had heard. -/
theorem heard_leave : heard me joined (some log.length) log = heard me joined none log := by
  rw [heard, heard, during, during, Option.elim_some, Option.elim_none, List.take_length]

/-- **A member that has left** hears nothing more. -/
theorem heard_append_of_left {left : Nat} (h : left ≤ log.length) (more : List (Entry ι μ)) :
    heard me joined (some left) (log ++ more) = heard me joined (some left) log := by
  rw [heard, heard, during, during, Option.elim_some, Option.elim_some,
    List.take_append_of_le_length h]

/-- What two members that are still there have heard of the others. -/
theorem heard_filter (you : ι) :
    (heard me joined none log).filter (fun e => !e.own you)
      = (log.drop joined).filter fun e => !e.own you && !e.own me := by
  rw [heard, during, Option.elim_none, others, List.filter_filter]

/-- **One order for all**: of what neither of two members said, the one that joined later heard a
    suffix of what the other heard. -/
theorem total_order {you : ι} {later : Nat} (h : joined ≤ later) :
    (heard you later none log).filter (fun e => !e.own me) <:+
      (heard me joined none log).filter (fun e => !e.own you) := by
  rw [heard_filter, heard_filter]
  have hswap : (fun e : Entry ι μ => !e.own me && !e.own you) = fun e => !e.own you && !e.own me :=
    funext fun e => Bool.and_comm _ _
  rw [hswap]
  exact (List.drop_suffix_drop_left log h).filter _

end Laws

/-! ## A connection that may be cut -/

section Carriage

variable {κ α : Type*} {cut cut' : Entry κ (List α) → Prop} {es : List (Entry κ (List α))}
  {out : List α}

/-- What a connection hands on of messages that are strings: of each one all of it, or a front
    part if it may be cut. -/
inductive Carried (cut : Entry κ (List α) → Prop) : List (Entry κ (List α)) → List α → Prop
  | nil : Carried cut [] []
  | whole {es : List (Entry κ (List α))} {out : List α} (h : Carried cut es out)
      (e : Entry κ (List α)) : Carried cut (es ++ [e]) (out ++ e.message)
  | part {es : List (Entry κ (List α))} {out front : List α} (h : Carried cut es out)
      (e : Entry κ (List α)) (hcut : cut e) (hfront : front <+: e.message) :
      Carried cut (es ++ [e]) (out ++ front)

/-- More messages may be cut. -/
theorem Carried.mono (h : Carried cut es out) (hsub : ∀ e, cut e → cut' e) :
    Carried cut' es out := by
  induction h with
  | nil => exact .nil
  | whole _ e ih => exact ih.whole e
  | part _ e hcut hfront ih => exact ih.part e (hsub e hcut) hfront

/-- **When no message may be cut**, all of them are handed on, one after the other. -/
theorem Carried.eq_flatMap (h : Carried cut es out) (hno : ∀ e ∈ es, ¬ cut e) :
    out = es.flatMap (·.message) := by
  induction h with
  | nil => rfl
  | whole _ e ih =>
      rw [List.flatMap_append, List.flatMap_singleton,
        ← ih fun e' he' => hno e' (List.mem_append_left _ he')]
  | part _ e hcut =>
      exact absurd hcut (hno e (List.mem_append_right _ (List.mem_singleton_self e)))

end Carriage

end Broadcast
