import Mathlib.Data.List.Basic

/-!
# The latest news

A log is read for one kind of news: `latest news log` is what its last entry with such news says.
What is logged later counts, as far as it has any.
-/

namespace ObsZCamera

variable {ε α : Type}

/-- What the last entry of the log that has `news` says. -/
def latest (news : ε → Option α) (log : List ε) : Option α := (log.filterMap news).getLast?

variable {news : ε → Option α}

@[simp] theorem latest_nil : latest news [] = none := rfl

theorem latest_append (log out : List ε) :
    latest news (log ++ out) = (latest news out).or (latest news log) := by
  simp [latest, List.getLast?_append]

@[simp] theorem latest_singleton (e : ε) : latest news [e] = news e := by
  unfold latest
  cases h : news e <;> simp [h]

@[simp] theorem latest_cons (e : ε) (log : List ε) :
    latest news (e :: log) = (latest news log).or (news e) := by
  rw [← List.singleton_append, latest_append, latest_singleton]

/-- Entries without news have no latest ones. -/
theorem latest_of_silent {log : List ε} (h : ∀ e ∈ log, news e = none) :
    latest news log = none := by
  simp [latest, List.filterMap_eq_nil_iff.mpr h]

/-- What the latest news say has been logged. -/
theorem mem_of_latest {log : List ε} {a : α} (h : latest news log = some a) :
    ∃ e ∈ log, news e = some a :=
  List.mem_filterMap.mp (List.mem_of_getLast? h)

end ObsZCamera
