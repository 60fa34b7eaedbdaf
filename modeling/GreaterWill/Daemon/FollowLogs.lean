import Mathlib.Data.List.DropRight
import GreaterWill.Lib.Lossy
import GreaterWill.Lib.Run

/-!
# Following a log

`handle_follow_logs` of `daemon/server.rs` with the tail read at its start, against the writers of
the log. A step is one access to the file: it is opened, its length is taken, it is read. A writer
appends whole lines, and creates the file if there is none; a rotation renames the file away, and
whoever has it open keeps it. The client reads on and the daemon is not shut down: either would
only end the stream.

The world also keeps what the log has held since the stream began (`history`) and what the stream
owes its client; no step looks at these.
-/

namespace GreaterWill

/-- `DEFAULT_LOG_TAIL_BYTES`. -/
def defaultLogTailBytes : Nat := 1024 * 1024

/-- A log file that was opened. -/
inductive LogHandle where
  | current
  /-- It was renamed away after that. -/
  | renamed (content : Bytes)
  deriving DecidableEq

namespace LogHandle

/-- The content, where `path` is the file at the path. -/
def content (path : Option Bytes) : LogHandle → Bytes
  | .current => path.getD []
  | .renamed content => content

/-- The file at the path is renamed. -/
def rename (content : Bytes) : LogHandle → LogHandle
  | .current => .renamed content
  | .renamed content => .renamed content

def isRenamed : LogHandle → Bool
  | .current => false
  | .renamed _ => true

end LogHandle

/-- Where the stream stands. An offset is `stale` when its file was renamed away. -/
inductive FollowPoint where
  /-- `read_log_tail` before it opens the file. -/
  | tailOpen
  | tailStat (file : LogHandle)
  | tailRead (file : LogHandle) (fileLen : Nat)
  /-- Before the byte offset is initialised. -/
  | offset
  /-- Between two polls. -/
  | idle (lastOffset : Nat) (pending : Bytes) (stale : Bool)
  | pollStat (file : LogHandle) (lastOffset : Nat) (pending : Bytes) (stale : Bool)
  | pollRead (file : LogHandle) (fileLen lastOffset : Nat) (pending : Bytes)
  deriving DecidableEq

/-- The file at the path is renamed. -/
def FollowPoint.rename (content : Bytes) : FollowPoint → FollowPoint
  | .tailOpen => .tailOpen
  | .tailStat file => .tailStat (file.rename content)
  | .tailRead file fileLen => .tailRead (file.rename content) fileLen
  | .offset => .offset
  | .idle lastOffset pending _ => .idle lastOffset pending true
  | .pollStat file lastOffset pending stale =>
    .pollStat (file.rename content) lastOffset pending stale
  | .pollRead file fileLen lastOffset pending =>
    .pollRead (file.rename content) fileLen lastOffset pending

structure FollowWorld where
  /-- The file at the path. -/
  path : Option Bytes
  point : FollowPoint
  /-- The data of the chunks sent. -/
  sent : List Bytes
  /-- Everything the log has held. -/
  history : Bytes
  /-- The file of which the tail was read, as it was then. -/
  tailFile : Bytes
  /-- How much of the history came before the end of the tail. -/
  tailEnd : Nat
  /-- How long the history was when the last poll began. -/
  due : Nat

def FollowWorld.start (path : Option Bytes) : FollowWorld where
  path := path
  point := .tailOpen
  sent := []
  history := path.getD []
  tailFile := []
  tailEnd := 0
  due := 0

/-- A chunk is sent unless it is empty. -/
def chunk (data : Bytes) : List Bytes := if data.isEmpty then [] else [data]

inductive FollowAction where
  | append (lines : Bytes)
  | rotate
  /-- The next step of the stream. -/
  | follow
  deriving DecidableEq

namespace FollowWorld
variable (tail : Option Nat) (w : FollowWorld)

/-- What `tail` asks for. -/
def wantBytes : Nat := tail.getD defaultLogTailBytes

/-- `read_log_tail` has the length of the file. -/
def tailStat (file : LogHandle) : FollowWorld :=
  let content := file.content w.path
  if tail = some 0 then
    { w with point := .offset, tailFile := content, tailEnd := w.tailEnd + content.length }
  else { w with point := .tailRead file content.length }

/-- It reads the file, and the tail is sent. -/
def tailRead (file : LogHandle) (fileLen : Nat) : FollowWorld :=
  let content := file.content w.path
  let start := fileLen - wantBytes tail
  let data := (content.drop start).take (wantBytes tail)
  { w with
    point := .offset
    sent := w.sent ++ chunk (fromUtf8Lossy data)
    tailFile := content
    tailEnd := w.tailEnd + start + data.length }

/-- A poll has the length of the file. -/
def pollStat (file : LogHandle) (lastOffset : Nat) (pending : Bytes) (stale : Bool) : FollowWorld :=
  let fileLen := (file.content w.path).length
  -- the file shrank
  let rotated := decide (fileLen < lastOffset)
  let lastOffset := if rotated then 0 else lastOffset
  let pending := if rotated then [] else pending
  if fileLen = lastOffset then
    { w with point := .idle lastOffset pending (file.isRenamed || stale) }
  else { w with point := .pollRead file fileLen lastOffset pending }

/-- A poll reads what is new, and sends the complete lines of it. -/
def pollRead (file : LogHandle) (fileLen lastOffset : Nat) (pending : Bytes) : FollowWorld :=
  let buf := pending ++ ((file.content w.path).drop lastOffset).take (fileLen - lastOffset)
  { w with
    point := .idle fileLen (buf.rtakeWhile (· ≠ Utf8.lineFeed)) file.isRenamed
    sent := w.sent ++ chunk (fromUtf8Lossy (buf.rdropWhile (· ≠ Utf8.lineFeed))) }

/-- The next step of the stream. -/
def follow : FollowWorld :=
  match w.point with
  | .tailOpen =>
    match w.path with
    | none => { w with point := .offset, tailEnd := w.history.length }
    | some content =>
      { w with point := .tailStat .current, tailEnd := w.history.length - content.length }
  | .tailStat file => w.tailStat tail file
  | .tailRead file fileLen => w.tailRead tail file fileLen
  | .offset => { w with point := .idle (w.path.getD []).length [] false }
  | .idle lastOffset pending stale =>
    match w.path with
    | none => { w with due := w.history.length }
    | some _ =>
      { w with point := .pollStat .current lastOffset pending stale, due := w.history.length }
  | .pollStat file lastOffset pending stale => w.pollStat file lastOffset pending stale
  | .pollRead file fileLen lastOffset pending => w.pollRead file fileLen lastOffset pending

end FollowWorld

/-- One access to the log. -/
def followStep (tail : Option Nat) (w : FollowWorld) : FollowAction → Option FollowWorld
  | .append lines =>
    if lines ≠ [] ∧ EndsLine lines then
      some { w with path := some (w.path.getD [] ++ lines), history := w.history ++ lines }
    else none
  | .rotate =>
    w.path.map fun content => { w with path := none, point := w.point.rename content }
  | .follow => some (w.follow tail)

namespace FollowWorld
variable (tail : Option Nat) (w : FollowWorld)

/-- Between two polls the chunks are the tail, the last `tail` bytes of the log, and after it every
line that was appended before the last poll began, in chunks of whole lines. Lines appended while
the poll was at work may be among them. -/
def Exact : Prop :=
  ∀ lastOffset pending stale, w.point = .idle lastOffset pending stale →
    ∃ (blocks : List Bytes) (rest : Bytes),
      w.sent = chunk (fromUtf8Lossy (w.tailFile.rtake (wantBytes tail))) ++
        blocks.map fromUtf8Lossy ∧
      (∀ block ∈ blocks, block ≠ [] ∧ EndsLine block) ∧
      w.history.drop w.tailEnd = blocks.flatten ++ rest ∧
      w.due ≤ w.tailEnd + blocks.flatten.length

/-- The part of the file at the path that the stream has not read and the poll in progress will not
read. -/
def unread : Bytes :=
  let content := w.path.getD []
  match w.point with
  | .idle lastOffset _ stale => if stale then content else content.drop lastOffset
  | .pollStat file _ _ _ => if file.isRenamed then content else []
  | .pollRead file fileLen _ _ => if file.isRenamed then content else content.drop fileLen
  | _ => []

/-- The next step from this point loses nothing. -/
def Follows : FollowPoint → Prop
  | .offset => w.history.length = w.tailEnd
  | .pollStat file lastOffset _ stale =>
    stale = true → lastOffset = 0 ∨ (file.content w.path).length < lastOffset
  | _ => True

/-- The stream keeps up with the writers: nothing is appended between the end of the tail and the
initialisation of the offset, no file is renamed away before it was read to its end, and a poll that
finds another file than the last one finds it shorter. -/
def KeepsUp : FollowAction → Prop
  | .append _ => True
  | .rotate => w.unread = []
  | .follow => w.Follows w.point

instance Follows.decidable : ∀ point, Decidable (w.Follows point)
  | .offset => inferInstanceAs (Decidable (w.history.length = w.tailEnd))
  | .pollStat file lastOffset _ stale =>
    inferInstanceAs (Decidable
      (stale = true → lastOffset = 0 ∨ (file.content w.path).length < lastOffset))
  | .tailOpen | .tailStat _ | .tailRead _ _ | .idle _ _ _ | .pollRead _ _ _ _ =>
    inferInstanceAs (Decidable True)

instance KeepsUp.decidable : ∀ a, Decidable (w.KeepsUp a)
  | .append _ => inferInstanceAs (Decidable True)
  | .rotate => inferInstanceAs (Decidable (w.unread = []))
  | .follow => Follows.decidable w w.point

end FollowWorld

namespace FollowWorld

/-- The stream has sent the tail and the lines of `blocks`; `rest` is what the log holds after
them. -/
structure Sent (tail : Option Nat) (w : FollowWorld) (blocks : List Bytes) (rest : Bytes) :
    Prop where
  sent : w.sent = chunk (fromUtf8Lossy (w.tailFile.rtake (wantBytes tail))) ++
    blocks.map fromUtf8Lossy
  whole : ∀ block ∈ blocks, block ≠ [] ∧ EndsLine block
  history : ∃ before, w.history = before ++ (blocks.flatten ++ rest) ∧ before.length = w.tailEnd

/-- The file at the path ends the history. -/
def PathLast (w : FollowWorld) : Prop := ∃ before, w.history = before ++ w.path.getD []

/-- Where a descriptor is read from, `mid` follows; an offset of another file says nothing. -/
structure OffsetAt (content : Bytes) (offset : Nat) (stale : Bool) (mid : Bytes) : Prop where
  whole : stale = true → content = mid
  fresh : stale = false → ∃ head, content = head ++ mid ∧ head.length = offset

/-- What was appended to another file than the one that is open. -/
def later (w : FollowWorld) (file : LogHandle) : Bytes :=
  if file.isRenamed then w.path.getD [] else []

/-- The stream between two polls. -/
structure IdleAt (tail : Option Nat) (w : FollowWorld) (lastOffset : Nat) (pending : Bytes)
    (stale : Bool) (blocks : List Bytes) (rest : Bytes) : Prop where
  pending : pending = []
  sent : Sent tail w blocks rest
  offset : OffsetAt (w.path.getD []) lastOffset stale rest
  ends : EndsLine rest
  due : w.due ≤ w.tailEnd + blocks.flatten.length

structure PollStatAt (tail : Option Nat) (w : FollowWorld) (file : LogHandle) (lastOffset : Nat)
    (pending : Bytes) (stale : Bool) (blocks : List Bytes) (mid : Bytes) : Prop where
  pending : pending = []
  sent : Sent tail w blocks (mid ++ w.later file)
  offset : OffsetAt (file.content w.path) lastOffset stale mid
  ends : EndsLine mid
  laterEnds : EndsLine (w.later file)
  due : w.due ≤ w.tailEnd + blocks.flatten.length + mid.length

structure PollReadAt (tail : Option Nat) (w : FollowWorld) (file : LogHandle)
    (fileLen lastOffset : Nat) (pending : Bytes) (blocks : List Bytes) (head mid more : Bytes) :
    Prop where
  pending : pending = []
  sent : Sent tail w blocks (mid ++ (more ++ w.later file))
  content : file.content w.path = head ++ (mid ++ more)
  seen : head.length = lastOffset
  length : lastOffset + mid.length = fileLen
  new : mid ≠ []
  ends : EndsLine mid
  moreEnds : EndsLine more
  laterEnds : EndsLine (w.later file)
  renamed : file.isRenamed = true → more = []
  due : w.due ≤ w.tailEnd + blocks.flatten.length + mid.length

/-- Nothing was sent yet. -/
structure Beginning (w : FollowWorld) : Prop where
  sent : w.sent = []
  pathLast : w.PathLast
  due : w.due = 0

/-- What holds of the stream in a run in which it keeps up. -/
def Sound (tail : Option Nat) (w : FollowWorld) : Prop :=
  match w.point with
  | .tailOpen => w.Beginning ∧ w.tailFile = []
  | .tailStat file =>
    w.Beginning ∧ w.tailEnd + (file.content w.path).length ≤ w.history.length
  | .tailRead file fileLen =>
    w.Beginning ∧ w.tailEnd + (file.content w.path).length ≤ w.history.length ∧
      fileLen ≤ (file.content w.path).length
  | .offset =>
    w.PathLast ∧ w.due = 0 ∧ w.tailEnd ≤ w.history.length ∧ (w.history.length = w.tailEnd →
      w.sent = chunk (fromUtf8Lossy (w.tailFile.rtake (wantBytes tail))))
  | .idle lastOffset pending stale =>
    ∃ blocks rest, IdleAt tail w lastOffset pending stale blocks rest
  | .pollStat file lastOffset pending stale =>
    ∃ blocks mid, PollStatAt tail w file lastOffset pending stale blocks mid
  | .pollRead file fileLen lastOffset pending =>
    ∃ blocks head mid more, PollReadAt tail w file fileLen lastOffset pending blocks head mid more

section
variable {tail : Option Nat} {w w' : FollowWorld} {file : LogHandle} {fileLen lastOffset : Nat}
  {pending : Bytes} {stale : Bool} {blocks : List Bytes} {rest mid lines content : Bytes}

/-! ### Appending -/

/-- Whole lines are appended to the log. -/
def appended (w : FollowWorld) (lines : Bytes) : FollowWorld :=
  { w with path := some (w.path.getD [] ++ lines), history := w.history ++ lines }

theorem PathLast.appended (h : w.PathLast) : (w.appended lines).PathLast := by
  obtain ⟨before, hbefore⟩ := h
  refine ⟨before, ?_⟩
  dsimp only [FollowWorld.appended, Option.getD_some]
  rw [hbefore, List.append_assoc]

theorem Beginning.appended (h : w.Beginning) : (w.appended lines).Beginning :=
  ⟨h.sent, h.pathLast.appended, h.due⟩

theorem Sent.appended (h : Sent tail w blocks rest) (lines : Bytes) :
    Sent tail (w.appended lines) blocks (rest ++ lines) := by
  obtain ⟨before, hbefore, hlen⟩ := h.history
  refine ⟨h.sent, h.whole, before, ?_, hlen⟩
  dsimp only [FollowWorld.appended]
  rw [hbefore, List.append_assoc, List.append_assoc]

theorem OffsetAt.append (h : OffsetAt content lastOffset stale mid) :
    OffsetAt (content ++ lines) lastOffset stale (mid ++ lines) := by
  constructor
  · intro hstale
    rw [h.whole hstale]
  · intro hfresh
    obtain ⟨head, rfl, hhead⟩ := h.fresh hfresh
    exact ⟨head, List.append_assoc .., hhead⟩

/-- A file that is open grows if it is still at the path. -/
theorem content_appended (w : FollowWorld) (file : LogHandle) (lines : Bytes) : (w.later file = [] ∧
      file.content (w.appended lines).path = file.content w.path ++ lines ∧
      (w.appended lines).later file = [] ∧ file.isRenamed = false) ∨
    (file.content (w.appended lines).path = file.content w.path ∧
      (w.appended lines).later file = w.later file ++ lines ∧ file.isRenamed = true) := by
  cases file with
  | current => exact .inl ⟨rfl, rfl, rfl, rfl⟩
  | renamed content => exact .inr ⟨rfl, rfl, rfl⟩

theorem content_length_le_appended (w : FollowWorld) (file : LogHandle) (lines : Bytes) :
    (file.content w.path).length ≤ (file.content (w.appended lines).path).length ∧
      (file.content (w.appended lines).path).length ≤
        (file.content w.path).length + lines.length := by
  rcases content_appended w file lines with
    ⟨-, hcontent, -⟩ | ⟨hcontent, -⟩
  · rw [hcontent, List.length_append]
    exact ⟨Nat.le_add_right .., Nat.le_refl _⟩
  · rw [hcontent]
    exact ⟨Nat.le_refl _, Nat.le_add_right ..⟩

theorem PollStatAt.appended (hlines : EndsLine lines)
    (h : PollStatAt tail w file lastOffset pending stale blocks mid) :
    ∃ mid, PollStatAt tail (w.appended lines) file lastOffset pending stale blocks mid := by
  have hsent := h.sent.appended lines
  rcases content_appended w file lines with
    ⟨hlater, hcontent, hlater', -⟩ | ⟨hcontent, hlater', -⟩
  · refine ⟨mid ++ lines, h.pending, ?_, ?_, h.ends.append hlines, ?_, ?_⟩
    · rw [hlater, List.append_nil] at hsent
      rw [hlater', List.append_nil]
      exact hsent
    · rw [hcontent]
      exact h.offset.append
    · rw [hlater']
      exact .nil
    · rw [List.length_append, ← Nat.add_assoc]
      exact Nat.le_add_right_of_le h.due
  · refine ⟨mid, h.pending, ?_, ?_, h.ends, ?_, h.due⟩
    · rw [hlater', ← List.append_assoc]
      exact hsent
    · rw [hcontent]
      exact h.offset
    · rw [hlater']
      exact h.laterEnds.append hlines

theorem PollReadAt.appended {head more : Bytes} (hlines : EndsLine lines)
    (h : PollReadAt tail w file fileLen lastOffset pending blocks head mid more) :
    ∃ more, PollReadAt tail (w.appended lines) file fileLen lastOffset pending blocks head mid
      more := by
  have hsent := h.sent.appended lines
  rcases content_appended w file lines with
    ⟨hlater, hcontent, hlater', hcurrent⟩ | ⟨hcontent, hlater', -⟩
  · refine ⟨more ++ lines, h.pending, ?_, ?_, h.seen, h.length, h.new, h.ends,
      h.moreEnds.append hlines, ?_, ?_, h.due⟩
    · rw [hlater, List.append_nil, List.append_assoc] at hsent
      rw [hlater', List.append_nil]
      exact hsent
    · rw [hcontent, h.content, List.append_assoc, List.append_assoc]
    · rw [hlater']
      exact .nil
    · intro hrenamed
      rw [hcurrent] at hrenamed
      cases hrenamed
  · refine ⟨more, h.pending, ?_, ?_, h.seen, h.length, h.new, h.ends, h.moreEnds, ?_, h.renamed,
      h.due⟩
    · rw [hlater', ← List.append_assoc more, ← List.append_assoc mid]
      exact hsent
    · rw [hcontent, h.content]
    · rw [hlater']
      exact h.laterEnds.append hlines

theorem Sound.appended (hne : lines ≠ []) (hlines : EndsLine lines) (h : w.Sound tail) :
    (w.appended lines).Sound tail := by
  have hlength : (w.appended lines).history.length = w.history.length + lines.length :=
    List.length_append
  have hpoint : (w.appended lines).point = w.point := rfl
  have htailEnd : (w.appended lines).tailEnd = w.tailEnd := rfl
  have hpos : 0 < lines.length := List.length_pos_iff.mpr hne
  unfold Sound at h ⊢
  rw [hpoint]
  cases hp : w.point with
  | tailOpen =>
    rw [hp] at h
    exact ⟨h.1.appended, h.2⟩
  | tailStat file =>
    rw [hp] at h
    obtain ⟨hbegin, hend⟩ := h
    have hcontent := content_length_le_appended w file lines
    refine ⟨hbegin.appended, ?_⟩
    rw [hlength, htailEnd]
    omega
  | tailRead file fileLen =>
    rw [hp] at h
    obtain ⟨hbegin, hend, hlen⟩ := h
    have hcontent := content_length_le_appended w file lines
    refine ⟨hbegin.appended, ?_, Nat.le_trans hlen hcontent.1⟩
    rw [hlength, htailEnd]
    omega
  | offset =>
    rw [hp] at h
    obtain ⟨hlast, hdue, hend, -⟩ := h
    refine ⟨hlast.appended, hdue, ?_, ?_⟩
    · rw [hlength]
      exact Nat.le_add_right_of_le hend
    · intro heq
      rw [hlength, htailEnd] at heq
      omega
  | idle lastOffset pending stale =>
    rw [hp] at h
    obtain ⟨blocks, rest, h⟩ := h
    exact ⟨blocks, rest ++ lines, h.pending, h.sent.appended lines, h.offset.append,
      h.ends.append hlines, h.due⟩
  | pollStat file lastOffset pending stale =>
    rw [hp] at h
    obtain ⟨blocks, mid, h⟩ := h
    exact ⟨blocks, h.appended hlines⟩
  | pollRead file fileLen lastOffset pending =>
    rw [hp] at h
    obtain ⟨blocks, head, mid, more, h⟩ := h
    exact ⟨blocks, head, mid, h.appended hlines⟩

/-! ### Rotating -/

/-- The file at the path is renamed away. -/
def rotated (w : FollowWorld) (content : Bytes) : FollowWorld :=
  { w with path := none, point := w.point.rename content }

theorem content_rename (hpath : w.path = some content) :
    (file.rename content).content (w.rotated content).path = file.content w.path := by
  rw [hpath]
  cases file <;> rfl

theorem later_rename : (w.rotated content).later (file.rename content) = [] := by
  cases file <;> rfl

theorem Sent.rotated (h : Sent tail w blocks rest) : Sent tail (w.rotated content) blocks rest :=
  ⟨h.sent, h.whole, h.history⟩

/-- A file that is open stays readable, and the new file at the path comes after it. -/
theorem later_eq_nil_of_unread (hunread : file.isRenamed = true → w.path.getD [] = []) :
    w.later file = [] := by
  unfold later
  split
  · exact hunread ‹_›
  · rfl

theorem Sound.rotated (hpath : w.path = some content) (hunread : w.unread = [])
    (h : w.Sound tail) : (w.rotated content).Sound tail := by
  have hpoint : (w.rotated content).point = w.point.rename content := rfl
  have hlast : (w.rotated content).PathLast := ⟨w.history, (List.append_nil _).symm⟩
  unfold Sound at h ⊢
  unfold unread at hunread
  rw [hpoint]
  cases hp : w.point with
  | tailOpen =>
    rw [hp] at h
    exact ⟨⟨h.1.sent, hlast, h.1.due⟩, h.2⟩
  | tailStat file =>
    rw [hp] at h
    obtain ⟨hbegin, hend⟩ := h
    refine ⟨⟨hbegin.sent, hlast, hbegin.due⟩, ?_⟩
    rw [content_rename hpath]
    exact hend
  | tailRead file fileLen =>
    rw [hp] at h
    obtain ⟨hbegin, hend, hlen⟩ := h
    refine ⟨⟨hbegin.sent, hlast, hbegin.due⟩, ?_, ?_⟩
    · rw [content_rename hpath]
      exact hend
    · rw [content_rename hpath]
      exact hlen
  | offset =>
    rw [hp] at h
    exact ⟨hlast, h.2⟩
  | idle lastOffset pending stale =>
    rw [hp] at h hunread
    obtain ⟨blocks, rest, h⟩ := h
    have hrest : rest = [] := by
      cases stale with
      | true => exact (h.offset.whole rfl).symm.trans hunread
      | false =>
        obtain ⟨head, hcontent, hhead⟩ := h.offset.fresh rfl
        rw [← hhead] at hunread
        dsimp only at hunread
        rw [hcontent, if_neg Bool.false_ne_true, List.drop_left] at hunread
        exact hunread
    refine ⟨blocks, [], h.pending, ?_, ⟨fun _ => rfl, fun hfalse => nomatch hfalse⟩, .nil, h.due⟩
    rw [← hrest]
    exact h.sent.rotated
  | pollStat file lastOffset pending stale =>
    rw [hp] at h hunread
    obtain ⟨blocks, mid, h⟩ := h
    have hlater : w.later file = [] := by
      apply later_eq_nil_of_unread
      intro hrenamed
      dsimp only at hunread
      rw [if_pos hrenamed] at hunread
      exact hunread
    refine ⟨blocks, mid, h.pending, ?_, ?_, h.ends, ?_, h.due⟩
    · rw [later_rename, ← hlater]
      exact h.sent.rotated
    · rw [content_rename hpath]
      exact h.offset
    · rw [later_rename]
      exact .nil
  | pollRead file fileLen lastOffset pending =>
    rw [hp] at h hunread
    obtain ⟨blocks, head, mid, more, h⟩ := h
    dsimp only at hunread
    have hlater : w.later file = [] := by
      apply later_eq_nil_of_unread
      intro hrenamed
      rw [if_pos hrenamed] at hunread
      exact hunread
    have hmore : more = [] := by
      cases file with
      | renamed c => exact h.renamed rfl
      | current =>
        have hcontent : w.path.getD [] = head ++ (mid ++ more) := h.content
        have hlength : (head ++ mid).length = fileLen := by
          rw [List.length_append, h.seen]
          exact h.length
        rw [hcontent, ← List.append_assoc, ← hlength, List.drop_left] at hunread
        exact hunread
    refine ⟨blocks, head, mid, more, h.pending, ?_, ?_, h.seen, h.length, h.new, h.ends,
      h.moreEnds, ?_, fun _ => hmore, h.due⟩
    · rw [later_rename, ← hlater]
      exact h.sent.rotated
    · rw [content_rename hpath]
      exact h.content
    · rw [later_rename]
      exact .nil

/-! ### Following -/

theorem tailRead_sound (hbegin : w.Beginning)
    (hend : w.tailEnd + (file.content w.path).length ≤ w.history.length)
    (hlen : fileLen ≤ (file.content w.path).length) : (w.tailRead tail file fileLen).Sound tail := by
  refine ⟨hbegin.pathLast, hbegin.due, ?_, ?_⟩
  · dsimp only [tailRead]
    rw [List.length_take, List.length_drop]
    omega
  · intro hall
    dsimp only [tailRead] at hall ⊢
    rw [List.length_take, List.length_drop] at hall
    rw [hbegin.sent, List.nil_append]
    -- the file was read to its end
    have hdrop : fileLen - wantBytes tail = (file.content w.path).length - wantBytes tail := by
      omega
    have htake : (file.content w.path).length -
        ((file.content w.path).length - wantBytes tail) ≤ wantBytes tail := by
      omega
    rw [hdrop, List.take_of_length_le (by rw [List.length_drop]; exact htake)]
    rfl

theorem chunk_rtake_nil (n : Nat) : chunk (fromUtf8Lossy (([] : Bytes).rtake n)) = [] := by
  rw [List.rtake_nil]
  rfl

theorem chunk_rtake_zero (bs : Bytes) : chunk (fromUtf8Lossy (bs.rtake 0)) = [] := by
  rw [List.rtake_zero]
  rfl

/-- Nothing is new where there is no file. -/
theorem OffsetAt.eq_nil (h : OffsetAt content lastOffset stale mid) (hnil : content = []) :
    mid = [] := by
  cases stale with
  | true => exact (h.whole rfl).symm.trans hnil
  | false =>
    obtain ⟨head, hcontent, -⟩ := h.fresh rfl
    exact (List.append_eq_nil_iff.mp (hcontent.symm.trans hnil)).2

/-- A poll reads on where the last one ended, or at the beginning of another file. -/
theorem OffsetAt.detected (h : OffsetAt content lastOffset stale mid)
    (hdetect : stale = true → lastOffset = 0 ∨ content.length < lastOffset) :
    ∃ head, content = head ++ mid ∧ (stale = true → head = []) ∧
      head.length = if content.length < lastOffset then 0 else lastOffset := by
  cases stale with
  | true =>
    refine ⟨[], h.whole rfl, fun _ => rfl, ?_⟩
    rcases hdetect rfl with hzero | hless
    · rw [hzero, ite_self]
      rfl
    · rw [if_pos hless]
      rfl
  | false =>
    obtain ⟨head, hcontent, hhead⟩ := h.fresh rfl
    refine ⟨head, hcontent, fun hfalse => (nomatch hfalse), ?_⟩
    rw [if_neg, hhead]
    rw [hcontent, List.length_append, hhead]
    exact Nat.not_lt.mpr (Nat.le_add_right ..)

theorem PollStatAt.step (h : PollStatAt tail w file lastOffset pending stale blocks mid)
    (hdetect : stale = true → lastOffset = 0 ∨ (file.content w.path).length < lastOffset) :
    (w.pollStat file lastOffset pending stale).Sound tail := by
  obtain ⟨head, hcontent, hstale, hhead⟩ := h.offset.detected hdetect
  have hpending : (if (file.content w.path).length < lastOffset then [] else pending) = [] := by
    rw [h.pending, ite_self]
  unfold pollStat
  simp only [decide_eq_true_eq, hpending, ← hhead]
  have hlength : (file.content w.path).length = head.length + mid.length := by
    rw [hcontent, List.length_append]
  split
  · rename_i hall
    have hmid : mid = [] := by
      rw [← List.length_eq_zero_iff]
      omega
    have hsent : Sent tail w blocks (w.later file) := by
      have hsent := h.sent
      rw [hmid] at hsent
      exact hsent
    refine ⟨blocks, w.later file, rfl, ⟨hsent.sent, hsent.whole, hsent.history⟩, ?_, h.laterEnds,
      ?_⟩
    · cases file with
      | renamed c => exact ⟨fun _ => rfl, fun hfalse => nomatch hfalse⟩
      | current =>
        rw [hmid, List.append_nil] at hcontent
        exact ⟨fun htrue => hcontent.trans (hstale htrue),
          fun _ => ⟨head, hcontent.trans (List.append_nil _).symm, rfl⟩⟩
    · have hdue := h.due
      rw [hmid] at hdue
      exact hdue
  · rename_i hnew
    refine ⟨blocks, head, mid, [], rfl, ?_, ?_, rfl, hlength.symm, ?_, h.ends, .nil, h.laterEnds,
      fun _ => rfl, h.due⟩
    · exact ⟨h.sent.sent, h.sent.whole, h.sent.history⟩
    · rw [List.append_nil]
      exact hcontent
    · rintro rfl
      exact hnew hlength

/-- What a poll reads are whole lines. -/
theorem rtakeWhile_of_endsLine (h : EndsLine mid) :
    mid.rtakeWhile (· ≠ Utf8.lineFeed) = [] ∧ mid.rdropWhile (· ≠ Utf8.lineFeed) = mid := by
  by_cases hne : mid = []
  · rw [hne]
    exact ⟨rfl, rfl⟩
  · obtain ⟨init, rfl⟩ := h.exists_append hne
    constructor
    · rw [List.rtakeWhile_concat_neg]
      decide
    · rw [List.rdropWhile_concat_neg]
      decide

theorem PollReadAt.step {head more : Bytes}
    (h : PollReadAt tail w file fileLen lastOffset pending blocks head mid more) :
    (w.pollRead file fileLen lastOffset pending).Sound tail := by
  have hread : pending ++ ((file.content w.path).drop lastOffset).take (fileLen - lastOffset) =
      mid := by
    have hlength : fileLen - lastOffset = mid.length := by
      have := h.length
      omega
    rw [h.pending, h.content, ← h.seen, List.drop_left, h.seen, hlength, List.take_left,
      List.nil_append]
  obtain ⟨hpending, hcomplete⟩ := rtakeWhile_of_endsLine h.ends
  unfold pollRead
  dsimp only
  rw [hread, hpending, hcomplete]
  have hchunk : chunk (fromUtf8Lossy mid) = [fromUtf8Lossy mid] := by
    rw [chunk, if_neg]
    rw [List.isEmpty_iff]
    exact fromUtf8Lossy_ne_nil h.ends h.new
  obtain ⟨before, hbefore, hbeforeLen⟩ := h.sent.history
  refine ⟨blocks ++ [mid], more ++ w.later file, rfl, ⟨?_, ?_, before, ?_, hbeforeLen⟩, ?_,
    h.moreEnds.append h.laterEnds, ?_⟩
  · dsimp only
    rw [h.sent.sent, hchunk, List.map_append, List.append_assoc]
    rfl
  · intro block hblock
    rcases List.mem_append.mp hblock with hblock | hblock
    · exact h.sent.whole block hblock
    · rw [List.mem_singleton] at hblock
      rw [hblock]
      exact ⟨h.new, h.ends⟩
  · dsimp only
    rw [hbefore, List.flatten_append, List.flatten_singleton]
    simp only [List.append_assoc]
  · cases file with
    | renamed c =>
      rw [h.renamed rfl]
      exact ⟨fun _ => rfl, fun hfalse => nomatch hfalse⟩
    | current =>
      refine ⟨fun hfalse => (nomatch hfalse), fun _ => ⟨head ++ mid, ?_, ?_⟩⟩
      · have hcontent : w.path.getD [] = head ++ (mid ++ more) := h.content
        have hlater : w.later .current = [] := rfl
        dsimp only
        rw [hcontent, hlater, List.append_nil, List.append_assoc]
      · rw [List.length_append, h.seen]
        exact h.length
  · dsimp only
    rw [List.flatten_append, List.flatten_singleton, List.length_append, ← Nat.add_assoc]
    exact h.due

theorem Sound.follow (hkeeps : w.KeepsUp .follow) (h : w.Sound tail) :
    (w.follow tail).Sound tail := by
  unfold FollowWorld.follow
  unfold Sound at h
  unfold KeepsUp Follows at hkeeps
  cases hp : w.point with
  | tailOpen =>
    rw [hp] at h
    obtain ⟨hbegin, htail⟩ := h
    dsimp only
    cases hpath : w.path with
    | none =>
      obtain ⟨before, hhistory⟩ := hbegin.pathLast
      rw [hpath] at hhistory
      refine ⟨⟨before, hhistory⟩, hbegin.due, Nat.le_refl _, fun _ => ?_⟩
      dsimp only
      rw [hbegin.sent, htail]
      exact (chunk_rtake_nil _).symm
    | some content =>
      obtain ⟨before, hhistory⟩ := hbegin.pathLast
      rw [hpath] at hhistory
      refine ⟨⟨hbegin.sent, ⟨before, hhistory⟩, hbegin.due⟩, ?_⟩
      have hlength : w.history.length = before.length + content.length := by
        rw [hhistory, List.length_append]
        rfl
      dsimp only [LogHandle.content, Option.getD_some]
      omega
  | tailStat file =>
    rw [hp] at h
    obtain ⟨hbegin, hend⟩ := h
    dsimp only
    unfold FollowWorld.tailStat
    split
    · rename_i hzero
      refine ⟨hbegin.pathLast, hbegin.due, hend, fun _ => ?_⟩
      dsimp only
      rw [hbegin.sent, hzero]
      exact (chunk_rtake_zero _).symm
    · exact ⟨⟨hbegin.sent, hbegin.pathLast, hbegin.due⟩, hend, Nat.le_refl _⟩
  | tailRead file fileLen =>
    rw [hp] at h
    obtain ⟨hbegin, hend, hlen⟩ := h
    exact tailRead_sound hbegin hend hlen
  | offset =>
    rw [hp] at h hkeeps
    obtain ⟨-, hdue, -, hsent⟩ := h
    refine ⟨[], [], rfl, ⟨?_, fun _ hfalse => (nomatch hfalse), w.history, ?_, hkeeps⟩, ?_, .nil, ?_⟩
    · rw [List.map_nil, List.append_nil]
      exact hsent hkeeps
    · exact (List.append_nil _).symm
    · exact ⟨fun hfalse => (nomatch hfalse),
        fun _ => ⟨w.path.getD [], (List.append_nil _).symm, rfl⟩⟩
    · dsimp only
      rw [hdue]
      exact Nat.zero_le _
  | idle lastOffset pending stale =>
    rw [hp] at h
    obtain ⟨blocks, rest, h⟩ := h
    obtain ⟨before, hhistory, hbefore⟩ := h.sent.history
    have hlength : w.history.length = w.tailEnd + blocks.flatten.length + rest.length := by
      rw [hhistory, List.length_append, List.length_append, hbefore, Nat.add_assoc]
    have hoffset := h.offset
    dsimp only
    cases hpath : w.path with
    | none =>
      rw [hpath] at hoffset
      have hrest : rest = [] := hoffset.eq_nil rfl
      dsimp only
      refine ⟨blocks, rest, h.pending, ⟨h.sent.sent, h.sent.whole, before, hhistory, hbefore⟩,
        hoffset, h.ends, ?_⟩
      dsimp only
      rw [hlength, hrest]
      exact Nat.le_refl _
    | some content =>
      rw [hpath] at hoffset
      dsimp only
      refine ⟨blocks, rest, h.pending, ⟨h.sent.sent, h.sent.whole, before, ?_, hbefore⟩, hoffset,
        h.ends, .nil, Nat.le_of_eq hlength⟩
      have hlater (v : FollowWorld) : v.later .current = [] := rfl
      rw [hlater, List.append_nil]
      exact hhistory
  | pollStat file lastOffset pending stale =>
    rw [hp] at h hkeeps
    obtain ⟨blocks, mid, h⟩ := h
    exact h.step hkeeps
  | pollRead file fileLen lastOffset pending =>
    rw [hp] at h
    obtain ⟨blocks, head, mid, more, h⟩ := h
    exact h.step

theorem Sound.start (path : Option Bytes) : (start path).Sound tail :=
  ⟨⟨rfl, ⟨[], rfl⟩, rfl⟩, rfl⟩

theorem Sound.step {a : FollowAction} (hstep : followStep tail w a = some w') (hkeeps : w.KeepsUp a)
    (h : w.Sound tail) : w'.Sound tail := by
  cases a with
  | append lines =>
    simp only [followStep] at hstep
    split at hstep
    · rename_i hlines
      cases hstep
      exact h.appended hlines.1 hlines.2
    · cases hstep
  | rotate =>
    obtain ⟨content, hpath, rfl⟩ := Option.map_eq_some_iff.mp hstep
    exact h.rotated hpath hkeeps
  | follow =>
    cases hstep
    exact h.follow hkeeps

theorem Sound.exact (h : w.Sound tail) : w.Exact tail := by
  intro lastOffset pending stale hp
  unfold Sound at h
  rw [hp] at h
  obtain ⟨blocks, rest, h⟩ := h
  obtain ⟨before, hhistory, hbefore⟩ := h.sent.history
  refine ⟨blocks, rest, h.sent.sent, h.sent.whole, ?_, h.due⟩
  rw [hhistory, ← hbefore, List.drop_left]

end

end FollowWorld

end GreaterWill
