/-
A log that goes to the console leaves the files as they are.

Writing makes no outlets, so a log without outlets to files (`Logging.OnConsole`) stays without them
(`Logging.files_writeEntries`).
-/
import DataContract.Journal.Logbook
import Mathlib

namespace DataContract
namespace Logging

variable {g : Logging}

/-- A log that goes nowhere but to the console. -/
def OnConsole (g : Logging) : Prop :=
  ∀ m ∈ g.made, ∃ format, m.outlet = .console format

/-- Outlets on the console change neither files nor what outlets there are. -/
theorem foldl_writeTo (r : LogRecord) (outlets : List Outlet)
    (console : ∀ o ∈ outlets, ∃ format, o = .console format) (g : Logging) :
    (outlets.foldl (writeTo r) g).made = g.made ∧
      (outlets.foldl (writeTo r) g).files = g.files := by
  induction outlets generalizing g with
  | nil => exact ⟨rfl, rfl⟩
  | cons o rest ih =>
    obtain ⟨⟨format, rfl⟩, behind⟩ := List.forall_mem_cons.mp console
    obtain ⟨made, files⟩ := ih behind (writeTo r g (.console format))
    have same : (writeTo r g (.console format)).made = g.made ∧
        (writeTo r g (.console format)).files = g.files := by
      cases line : r.lineIn (Outlet.console format).format with
      | ok text => simp only [writeTo, line, and_self]
      | error fault => simp only [writeTo, line, and_self]
    exact ⟨made.trans same.1, files.trans same.2⟩

theorem write_onConsole (h : g.OnConsole) (r : LogRecord) :
    (g.write r).made = g.made ∧ (g.write r).files = g.files := by
  rw [write]
  split
  · refine foldl_writeTo r _ (fun o mem => ?_) g
    obtain ⟨i, -, there⟩ := List.mem_filterMap.mp mem
    obtain ⟨m, made, rfl⟩ := Option.map_eq_some_iff.mp there
    exact h m (List.mem_of_getElem? made)
  · exact ⟨rfl, rfl⟩

/-- A log that goes to the console leaves the files as they are. -/
theorem files_writeEntries (h : g.OnConsole) (time : ClockReading) (entries : List LogEntry) :
    (g.writeEntries time entries).files = g.files := by
  induction entries generalizing g with
  | nil => rfl
  | cons e rest ih =>
    obtain ⟨made, files⟩ := write_onConsole h (e.record time)
    have still : (g.write (e.record time)).OnConsole := by rwa [OnConsole, made]
    exact (ih still).trans files

end Logging
end DataContract
