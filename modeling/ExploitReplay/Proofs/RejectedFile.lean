import ExploitReplay.CommandLine.Standard
import ExploitReplay.Proofs.CompileCommand
import ExploitReplay.Proofs.Console.Terminal
import ExploitReplay.Proofs.Disk
import ExploitReplay.Proofs.Rejection

/-!
# What becomes of a rejected document

A command that is given a rejected document ends with an exit code of its own and a report that names
the part that is to blame. The name and the words of the report are literal, unless the document
itself has put markup there. A document that stops its reader stops the command too: it has no exit
code, and nothing is said.

## Main results

* `Rejection.isLiteral_words`: the report of a rejection is literal
* `on_compile_rejected`: how a command ends that is given a rejected document
* `rejected_unless_stops`: every document is read, rejected in a line, or stops the command
-/

namespace ExploitReplay

open Markup (IsLiteral isOrdinary startsTag)

namespace Rejection

/-! ### Its words -/

theorem isLiteral_of_all {text : String} (h : text.toList.all isOrdinary = true) :
    IsLiteral text.toList :=
  .of_all h

theorem isLiteral_append {s t : String} (hs : IsLiteral s.toList) (ht : IsLiteral t.toList) :
    IsLiteral (s ++ t).toList := by
  rw [String.toList_append]
  exact hs.append ht

theorem ordinary_of_isDigit {c : Char} (h : c.isDigit = true) :
    isOrdinary c = true ∧ startsTag c = false := by
  obtain ⟨hlow, hhigh⟩ := Bool.and_eq_true_iff.mp h
  have hleast : 48 ≤ c.toNat := of_decide_eq_true hlow
  have hmost : c.toNat ≤ 57 := of_decide_eq_true hhigh
  obtain ⟨n, rfl⟩ : ∃ n : Fin 10, c = Char.ofNat (48 + n) :=
    Markup.exists_eq_ofNat hleast (by omega)
  clear h hlow hhigh hleast hmost
  revert n
  decide

/-- A position is shown as it is: no tag starts with a digit. -/
theorem isLiteral_position (i : Nat) : IsLiteral (position i).toList := by
  have hdigits : ∀ d ∈ Nat.toDigits 10 i, d.isDigit = true := fun d hd =>
    Nat.isDigit_of_mem_toDigits (by decide) (by decide) hd
  have htext : (position i).toList = '[' :: (Nat.toDigits 10 i ++ [']']) := by
    simp [position]
  obtain ⟨c, cs, hcons⟩ :=
    List.exists_cons_of_ne_nil (show Nat.toDigits 10 i ≠ [] from Nat.toDigits_ne_nil)
  rw [hcons] at hdigits htext
  have hordinary : ∀ d ∈ c :: (cs ++ [']']), isOrdinary d = true := by
    intro d hd
    rw [← List.cons_append, List.mem_append, List.mem_singleton] at hd
    rcases hd with hd | rfl
    · exact (ordinary_of_isDigit (hdigits d hd)).1
    · decide
  rw [htext]
  exact .bracket (ordinary_of_isDigit (hdigits c (by simp))).2 (.of_forall_ordinary hordinary)

/-- The name of a place is shown as it is. -/
theorem isLiteral_path {place : Place} {path : String} (h : place.path = some path) :
    IsLiteral path.toList := by
  cases place with
  | document => cases h
  | sequence =>
    obtain rfl := Option.some.inj h
    exact isLiteral_of_all (by decide)
  | step i =>
    obtain rfl := Option.some.inj h
    exact isLiteral_append (isLiteral_of_all (by decide)) (isLiteral_position i)
  | call i =>
    obtain rfl := Option.some.inj h
    exact isLiteral_append
      (isLiteral_append (isLiteral_of_all (by decide)) (isLiteral_position i))
      (isLiteral_of_all (by decide))
  | input i j =>
    obtain rfl := Option.some.inj h
    exact isLiteral_append
      (isLiteral_append
        (isLiteral_append (isLiteral_of_all (by decide)) (isLiteral_position i))
        (isLiteral_of_all (by decide)))
      (isLiteral_position j)
  | settings =>
    obtain rfl := Option.some.inj h
    exact isLiteral_of_all (by decide)
  | grant i =>
    obtain rfl := Option.some.inj h
    exact isLiteral_append (isLiteral_of_all (by decide)) (isLiteral_position i)

/-- The words for a problem are shown as they are, unless they quote the document. -/
theorem isLiteral_message {problem : Problem} (h : ∀ kind, problem ≠ .unknownInputKind kind) :
    IsLiteral problem.message.toList := by
  cases problem with
  | unknownInputKind kind => exact absurd rfl (h kind)
  | _ => exact isLiteral_of_all (by decide)

theorem isLiteral_located {path : Option String} {message : String}
    (hpath : ∀ p, path = some p → IsLiteral p.toList) (hmessage : IsLiteral message.toList) :
    IsLiteral (located path message).toList := by
  cases path with
  | none => exact hmessage
  | some p =>
    have hcolon : IsLiteral ": ".toList := .colon (by decide) (.ordinary (by decide) .nil)
    exact isLiteral_append (isLiteral_append (hpath p rfl) hcolon) hmessage

/-- **The report of a rejection is literal**: the place and the problem. -/
theorem isLiteral_words (place : Place) {problem : Problem}
    (h : ∀ kind, problem ≠ .unknownInputKind kind) :
    IsLiteral (Report.sequenceRejected (located place.path problem.message)).words.toList :=
  isLiteral_located (fun _ => isLiteral_path) (isLiteral_message h)

end Rejection

namespace Action

open Preferences (Store)

/-! ### The command -/

variable {store : Store} {request : CompileRequest} {d : Desk} {destination : Destination}
  {bytes : ByteArray} {document : Json} {cause : Rejection}

/-- The desk after a notice about the name of a sequence file. -/
def noticed (d : Desk) (name : String) : Desk :=
  { d with printed := d.printed ++ Exploit.extensionNotice (Path.ofString name) }

/-- The desk after a notice about the name of a sequence file, and a line. -/
def told (d : Desk) (name line : String) : Desk :=
  { noticed d name with printed := (noticed d name).printed ++ line }

theorem ofFile_rejected {disk : Disk} {name : String}
    (hfile : disk.contentAt (Path.ofString name) = .ok bytes)
    (hread : Json.read (Decoding.lenient bytes) = .ok document)
    (hcause : Exploit.ofJson document = .error cause) :
    Exploit.ofFile disk name =
      (Exploit.extensionNotice (Path.ofString name), .error (.rejected cause)) := by
  have hbytes : Exploit.ofBytes (Path.ofString name) bytes = .error (.rejected cause) := by
    unfold Exploit.ofBytes
    rw [hread]
    dsimp only
    rw [hcause, Except.mapError]
  unfold Exploit.ofFile
  dsimp only
  rw [Disk.look_of_contentAt hfile]
  dsimp only
  rw [hfile]
  dsimp only
  rw [hbytes]

/-- **How a command ends that is given a rejected document**: with a report and an exit code of its
own, or without an exit code if the rejection has no words. -/
theorem on_compile_rejected
    (hdestination : (destinationFor store request).on d = (.ok destination, d))
    (hfile : d.disk.contentAt (Path.ofString request.sequenceFile) = .ok bytes)
    (hread : Json.read (Decoding.lenient bytes) = .ok document)
    (hcause : Exploit.ofJson document = .error cause) :
    (compile store request).on d =
      match cause.message? with
      | some why => reported (noticed d request.sequenceFile) (.sequenceRejected why) failure
      | none => (.error (.unread (.rejected cause)), noticed d request.sequenceFile) := by
  have hunread := ofFile_rejected hfile hread hcause
  cases hwords : cause.message? with
  | some why =>
    have hreport : unreadReport? request.sequenceFile (.rejected cause) =
        some (.sequenceRejected why) := by
      simp [unreadReport?, Exploit.Unread.message?, hwords]
    exact on_compile_of_unread hdestination hunread (by simp) hreport
  | none =>
    -- the reading is interrupted, so that the command is
    rw [compile, on_bind, hdestination]
    dsimp only
    rw [on_bind, readSequence, on_bind, on_get]
    dsimp only
    rw [hunread]
    dsimp only
    rw [on_bind, on_say]
    simp only [unreadReport?, Exploit.Unread.message?, hwords, Option.map_none, on_throw]
    rfl

/-- **Every document is read, rejected with a report, or stops the command.** Every JSON value that
does not stop its reader is read or rejected with the place and the problem. A command that is given
a rejected document ends as one does that reports the place and the problem. Unless the problem is a
kind of argument that is unknown, which the report quotes, the report is shown and the command has
the exit code of a failure; what is shown is the line itself if the line fits into the console. A
document that stops its reader is not rejected in this way, and the command that is given one has no
exit code. -/
theorem rejected_unless_stops (document : Json) :
    ((∀ cause, ¬Exploit.Stops document cause) →
      (∃ e, Exploit.ofJson document = .ok e) ∨
        ∃ place problem, Exploit.ofJson document = .error (.malformed place problem)) ∧
    (∀ cause, Exploit.Stops document cause → Exploit.ofJson document = .error cause ∧
      ∀ place problem, cause ≠ .malformed place problem) ∧
    ∀ (store : Store) (request : CompileRequest) (d : Desk) (destination : Destination)
      (bytes : ByteArray), d.console.Documented →
      (destinationFor store request).on d = (.ok destination, d) →
      d.disk.contentAt (Path.ofString request.sequenceFile) = .ok bytes →
      Json.read (Decoding.lenient bytes) = .ok document →
      (∀ place problem, Exploit.ofJson document = .error (.malformed place problem) →
        let why := Rejection.located place.path problem.message
        (compile store request).on d =
          reported (noticed d request.sequenceFile) (.sequenceRejected why) failure ∧
        ((∀ kind, problem ≠ .unknownInputKind kind) →
          (∃ lines,
            (compile store request).on d = (.ok failure, told d request.sequenceFile lines)) ∧
          (d.console.Fits ("✗ " ++ why) → (compile store request).on d =
            (.ok failure, told d request.sequenceFile ("✗ " ++ why ++ "\n"))))) ∧
      ∀ cause, Exploit.Stops document cause →
        (compile store request).on d =
          (.error (.unread (.rejected cause)), noticed d request.sequenceFile) := by
  refine ⟨fun hreadable => ?_, fun cause hstops => ⟨Exploit.ofJson_of_stops hstops, ?_⟩, ?_⟩
  · rcases Exploit.ofJson_cases document with
      hok | ⟨cause, ⟨place, problem, rfl⟩, hof⟩ | ⟨cause, hstops, -⟩
    · exact .inl hok
    · exact .inr ⟨place, problem, hof⟩
    · exact absurd hstops (hreadable cause)
  · rintro place problem rfl
    cases hstops
  · intro store request d destination bytes hconsole hdestination hfile hread
    refine ⟨fun place problem hof => ?_, fun cause hstops => ?_⟩
    · intro why
      have hend : (compile store request).on d =
          reported (noticed d request.sequenceFile) (.sequenceRejected why) failure :=
        on_compile_rejected hdestination hfile hread hof
      refine ⟨hend, fun hkind => ⟨?_, fun hfits => ?_⟩⟩
      · rw [hend]
        exact reported_of_isLiteral failure hconsole (Rejection.isLiteral_words place hkind)
      · rw [hend]
        exact reported_of_fits hconsole (Rejection.isLiteral_words place hkind) hfits
    · rw [on_compile_rejected hdestination hfile hread (Exploit.ofJson_of_stops hstops)]
      cases hstops <;> rfl

/-- A desk with a sequence file that has the given text. -/
def deskWith (text : String) : Desk :=
  .standard 80 { entries := [(["a.json"], .file text.toUTF8)] }

/-- A call whose caller is a number. -/
def numberedCaller : Json :=
  .list [.object [("call", .object [("callInfo", .int 1)])]]

def numberedCallerText : String :=
  "[\x7b\"call\":\x7b\"callInfo\":1\x7d\x7d]"

/-- Values have no decidable equality, so the parts of a value are compared. -/
def isNumberedCaller : Json → Bool
  | .list [.object [(k, .object [(l, .int n)])]] => k == "call" && l == "callInfo" && n == 1
  | _ => false

theorem eq_of_isNumberedCaller {v : Json} (h : isNumberedCaller v = true) : v = numberedCaller := by
  unfold isNumberedCaller at h
  split at h
  · rename_i k l n
    simp only [Bool.and_eq_true, beq_iff_eq] at h
    obtain ⟨⟨rfl, rfl⟩, rfl⟩ := h
    rfl
  · cases h

theorem read_numberedCallerText :
    Json.read (Decoding.lenient numberedCallerText.toUTF8) = .ok numberedCaller := by
  have h : (Json.read (Decoding.lenient numberedCallerText.toUTF8)).toOption.any isNumberedCaller =
      true := by decide +kernel
  cases hread : Json.read (Decoding.lenient numberedCallerText.toUTF8) with
  | error cause =>
    rw [hread] at h
    cases h
  | ok v =>
    rw [hread] at h
    rw [eq_of_isNumberedCaller h]

theorem stops_numberedCaller : Exploit.Stops numberedCaller .partNotAnObject := by
  have hparts : Exploit.partsOf? numberedCaller =
      some ([] ++ .object [("call", .object [("callInfo", .int 1)])] :: [], .null) := rfl
  have hread : Exploit.stepsOf 0 [] = .ok [] := rfl
  have hcaller : Exploit.FilledNonObject (.int 1) := ⟨rfl, by simp⟩
  exact .part hparts hread ⟨_, rfl, rfl, rfl, rfl, .inl hcaller⟩

/-- The file is read, whatever its text is. -/
theorem contentAt_deskWith (text : String) :
    (deskWith text).disk.contentAt (Path.ofString "a.json") = .ok text.toUTF8 := by
  rfl

/-- A step that is no object is told, and a caller that is none stops the command. -/
theorem rejected_unless_stops_numberedCaller :
    (compile ⟨Path.ofString "a.yaml", {}, true⟩ { sequenceFile := "a.json" }).on (deskWith "[1]") =
        (.ok failure, told (deskWith "[1]") "a.json" "✗ sequence[0]: step must be an object\n") ∧
      (∀ cause, ¬Exploit.Stops (.list [.int 1]) cause) ∧
      Exploit.ofJson numberedCaller = .error .partNotAnObject ∧
      (compile ⟨Path.ofString "a.yaml", {}, true⟩ { sequenceFile := "a.json" }).on
          (deskWith numberedCallerText) =
        (.error (.unread (.rejected .partNotAnObject)),
          noticed (deskWith numberedCallerText) "a.json") := by
  have hread : Json.read (Decoding.lenient "[1]".toUTF8) = .ok (.list [.int 1]) := by rfl
  have hof : Exploit.ofJson (.list [.int 1]) = .error (.malformed (.step 0) .stepNotAnObject) := rfl
  obtain ⟨-, hunnamed, htold⟩ := rejected_unless_stops (.list [.int 1])
  obtain ⟨-, hstops, hstopped⟩ := rejected_unless_stops numberedCaller
  refine ⟨?_, fun cause hcause => ?_, (hstops _ stops_numberedCaller).1, ?_⟩
  · obtain ⟨hnamed, -⟩ := htold ⟨Path.ofString "a.yaml", {}, true⟩ { sequenceFile := "a.json" }
      (deskWith "[1]") .console _ (Terminal.documented_console _) rfl (contentAt_deskWith "[1]") hread
    obtain ⟨-, hshown⟩ := hnamed (.step 0) .stepNotAnObject hof
    exact (hshown (by simp)).2 ⟨by decide +kernel, by decide +kernel⟩
  · -- its rejection has a name, and no document that stops its reader is rejected so
    obtain ⟨herror, hother⟩ := hunnamed cause hcause
    exact hother _ _ (Except.error.inj (herror.symm.trans hof))
  · obtain ⟨-, hcause⟩ := hstopped ⟨Path.ofString "a.yaml", {}, true⟩ { sequenceFile := "a.json" }
      (deskWith numberedCallerText) .console _ (Terminal.documented_console _) rfl
      (contentAt_deskWith numberedCallerText) read_numberedCallerText
    exact hcause _ stops_numberedCaller

end Action

end ExploitReplay
