import Mathlib.Order.Lattice
import Outbox.Time.Instant

/-!
# Outbox.Proofs.Time — the order of times, sums and differences

Durations and instants are in the linear order of their nanoseconds.

Both have a range of their own. These are the rules for what leaves it: a difference that is no
duration stops at the longest one, an instant that the clock has no room for is none, and a timer
for such an instant is due after thirty years.
-/

namespace Outbox

namespace Duration

theorem nanos_le_longest (d : Duration) : d.nanos ≤ longest.nanos :=
  Nat.le_of_lt_succ d.nanos_lt

theorem eq_of_nanos_eq {a b : Duration} (h : a.nanos = b.nanos) : a = b := by
  cases a
  cases b
  simp only at h
  subst h
  rfl

instance : Ord Duration := ⟨fun a b => compare a.nanos b.nanos⟩

instance : LinearOrder Duration :=
  Function.Injective.linearOrder nanos (fun _ _ => eq_of_nanos_eq) .rfl .rfl
    (fun _ _ => apply_ite nanos _ _ _) (fun _ _ => apply_ite nanos _ _ _) fun _ _ => rfl

theorem nanos_ofNanos (n : Nat) : (ofNanos n).nanos = Nat.min n longest.nanos := by
  unfold ofNanos
  split
  · rename_i hn
    exact (Nat.min_eq_left (Nat.le_of_lt_succ hn)).symm
  · rename_i hn
    exact (Nat.min_eq_right (Nat.le_of_lt (Nat.not_lt.1 hn))).symm

end Duration

namespace Instant

instance : Ord Instant := ⟨fun a b => compare a.nanos b.nanos⟩

instance : LinearOrder Instant :=
  Function.Injective.linearOrder nanos (fun _ _ => congrArg mk) .rfl .rfl
    (fun _ _ => apply_ite nanos _ _ _) (fun _ _ => apply_ite nanos _ _ _) fun _ _ => rfl

theorem le_tick (t : Instant) : t ≤ t.tick := by
  show t.nanos ≤ (t.nanos + (Duration.milli - 1)) / Duration.milli * Duration.milli
  have milli : Duration.milli = 1000000 := rfl
  rw [milli]
  omega

theorem tick_le (t : Instant) : t.tick.nanos < t.nanos + Duration.milli := by
  show (t.nanos + (Duration.milli - 1)) / Duration.milli * Duration.milli < _
  have milli : Duration.milli = 1000000 := rfl
  rw [milli]
  omega

theorem nanos_since (t s : Instant) :
    (t.since s).nanos = Nat.min (t.nanos - s.nanos) Duration.longest.nanos :=
  Duration.nanos_ofNanos _

/-- An instant is at most the longest duration after another one. -/
def Reaches (s t : Instant) : Prop := t.nanos - s.nanos ≤ Duration.longest.nanos

instance (s t : Instant) : Decidable (s.Reaches t) := inferInstanceAs (Decidable (_ ≤ _))

theorem nanos_since_of_reaches {s t : Instant} (h : s.Reaches t) :
    (t.since s).nanos = t.nanos - s.nanos := by
  rw [nanos_since]
  exact Nat.min_eq_left h

/-- The clock has room for the instant that is a duration after this one. -/
def HasRoom (t : Instant) (d : Duration) : Prop :=
  t.nanos + d.nanos < 9223372036854775808 * Duration.second

instance (t : Instant) (d : Duration) : Decidable (t.HasRoom d) :=
  inferInstanceAs (Decidable (_ < _))

theorem after?_of_hasRoom {t : Instant} {d : Duration} (h : t.HasRoom d) :
    t.after? d = some ⟨t.nanos + d.nanos⟩ := by
  refine if_pos ?_
  exact Nat.div_lt_of_lt_mul (Nat.mul_comm _ _ ▸ h)

theorem after?_of_not_hasRoom {t : Instant} {d : Duration} (h : ¬ t.HasRoom d) :
    t.after? d = none := by
  refine if_neg ?_
  intro hlt
  exact h ((Nat.div_lt_iff_lt_mul (by decide)).1 hlt)

theorem isSome_after? (t : Instant) (d : Duration) : (t.after? d).isSome ↔ t.HasRoom d := by
  by_cases hroom : t.HasRoom d
  · rw [after?_of_hasRoom hroom]
    exact iff_of_true rfl hroom
  · rw [after?_of_not_hasRoom hroom]
    exact iff_of_false nofun hroom

theorem lt_timer (t : Instant) {d : Duration} (hpos : 0 < d.nanos) : t < t.timer d := by
  show t.nanos < (t.timer d).nanos
  unfold timer
  by_cases hroom : t.HasRoom d
  · rw [after?_of_hasRoom hroom]
    exact Nat.lt_add_of_pos_right hpos
  · rw [after?_of_not_hasRoom hroom]
    exact Nat.lt_add_of_pos_right (by decide)

/-- A timer that the clock has room for does not fire early. -/
theorem le_tick_timer {t : Instant} {d : Duration} (hroom : t.HasRoom d) :
    t.nanos + d.nanos ≤ (t.timer d).tick.nanos := by
  have htick : (t.timer d).nanos ≤ (t.timer d).tick.nanos := le_tick _
  unfold timer at htick ⊢
  rw [after?_of_hasRoom hroom] at htick ⊢
  exact htick

/-- A timer fires after the longest duration at the latest. -/
theorem reaches_tick_timer (t : Instant) (d : Duration) : t.Reaches (t.timer d).tick := by
  have htick := (t.timer d).tick_le
  have hlongest : Duration.longest.nanos = 18446744073709551615999999999 := rfl
  have hmilli : Duration.milli = 1000000 := rfl
  show (t.timer d).tick.nanos - t.nanos ≤ Duration.longest.nanos
  unfold timer at htick ⊢
  by_cases hroom : t.HasRoom d
  · rw [after?_of_hasRoom hroom] at htick ⊢
    have hsum : t.nanos + d.nanos < 9223372036854775808000000000 := hroom
    dsimp only at htick ⊢
    omega
  · rw [after?_of_not_hasRoom hroom] at htick ⊢
    have hhorizon : horizon.nanos = 946080000000000000 := rfl
    dsimp only at htick ⊢
    omega

end Instant
end Outbox
