import ModelGateway.Proofs.Relay.Heads

/-!
# Clients that leave

No write of a handler is refused, whether the response is collected in memory or streamed to a
client, and whether the client stays or leaves.  So a handler, which may depend on the answers to
its writes, has the same result in all cases, and a client that leaves has received the beginning of
the response.
-/

namespace ModelGateway

/-! ## Pieces of a response -/

namespace Write

def head? : Write → Option (Nat × String)
  | .head status contentType => some (status, contentType)
  | .chunk _ => none

def chunk? : Write → Option Bytes
  | .head _ _ => none
  | .chunk octets => some octets

def opening : Write → Nat × String
  | .head status contentType => (status, contentType)
  | .chunk _ => (200, jsonType)

/-- What a client that stays receives: the first head, then all chunks. -/
def pieces : List Write → List Write
  | [] => []
  | w :: rest => .head w.opening.1 w.opening.2 :: ((w :: rest).filterMap chunk?).map .chunk

/-- What a client receives that leaves after the given number of pieces, or stays. -/
def upTo (patience : Option Nat) (pieces : List Write) : List Write :=
  patience.elim pieces pieces.take

variable {patience : Option Nat} {writes : List Write}

theorem pieces_concat (hne : writes ≠ []) (w : Write) :
    pieces (writes ++ [w]) = pieces writes ++ ([w].filterMap chunk?).map .chunk := by
  cases writes with
  | nil => contradiction
  | cons first rest =>
      rw [List.cons_append, pieces, pieces, ← List.cons_append, List.filterMap_append,
        List.map_append]
      rfl

theorem pieces_eq_nil_iff : pieces writes = [] ↔ writes = [] := by
  cases writes <;> simp [pieces]

theorem filterMap_chunk?_pieces (writes : List Write) :
    (pieces writes).filterMap chunk? = writes.filterMap chunk? := by
  cases writes with
  | nil => rfl
  | cons w rest =>
      have hchunks (chunks : List Bytes) : (chunks.map chunk).filterMap chunk? = chunks := by
        rw [List.filterMap_map]
        exact List.filterMap_some
      rw [pieces, List.filterMap_cons_none rfl, hchunks]

theorem filterMap_head?_pieces (writes : List Write) :
    (pieces writes).filterMap head? = (writes.head?.map opening).toList := by
  cases writes with
  | nil => rfl
  | cons w rest =>
      have hchunks (chunks : List Bytes) : (chunks.map chunk).filterMap head? = [] := by
        rw [List.filterMap_map]
        exact List.filterMap_none _
      have hopening : head? (.head w.opening.1 w.opening.2) = some w.opening := rfl
      rw [pieces, List.filterMap_cons_some hopening, hchunks]
      rfl

theorem upTo_prefix (patience : Option Nat) (l : List Write) : upTo patience l <+: l := by
  cases patience with
  | none => exact List.prefix_refl l
  | some n => exact List.take_prefix n l

theorem upTo_append_of_left {l : List Write} (h : patience = some (upTo patience l).length)
    (later : List Write) : upTo patience (l ++ later) = upTo patience l := by
  cases patience with
  | none => cases h
  | some n =>
      have hlength : n ≤ l.length := by
        have hn : n = min n l.length := by simpa [upTo] using h
        omega
      exact List.take_append_of_le_length hlength

theorem upTo_concat_of_stayed {l : List Write} (h : patience ≠ some (upTo patience l).length)
    (next : Write) : upTo patience (l ++ [next]) = upTo patience l ++ [next] := by
  cases patience with
  | none => rfl
  | some n =>
      have hlength : l.length < n := by
        have hn : n ≠ min n l.length := by simpa [upTo] using h
        omega
      simp only [upTo, Option.elim_some]
      rw [List.take_of_length_le (by rw [List.length_append]; exact hlength),
        List.take_of_length_le hlength.le]

end Write

def Stream.deserted (s : Stream) : Stream := { s with headWaiting := false, bodyOpen := false }

/-- The writes on a stream whose client may leave before any of them. -/
inductive Stream.Comes : Stream → List Write → Stream → Prop
  | done (s : Stream) : Comes s [] s
  | write {s s' : Stream} {w : Write} {rest : List Write} (later : Comes (s.write w) rest s') :
      Comes s (w :: rest) s'
  | head {s s' : Stream} {octets : Bytes} {rest : List Write} (hunsent : s.headSent = false)
      (later : Comes (s.writeHead 200 Write.jsonType) (.chunk octets :: rest) s') :
      Comes s (.chunk octets :: rest) s'
  | leave {s s' : Stream} {writes : List Write} (later : Comes s.deserted writes s') :
      Comes s writes s'

/-- A stream, with all that its client has received and how long the client stays. -/
structure Line where
  stream : Stream := .fresh
  log : List Write := []

namespace Line

def attended (patience : Option Nat) (l : Line) : Line :=
  if patience = some l.log.length then { l with stream := l.stream.deserted } else l

def handHead? (l : Line) (status : Nat) (contentType : String) : Option Line :=
  if l.stream.headWaiting then
    some ⟨{ l.stream with head := some (status, contentType) },
      l.log ++ [.head status contentType]⟩
  else none

def handChunk? (l : Line) (octets : Bytes) : Option Line :=
  if l.stream.bodyOpen then
    some ⟨{ l.stream with chunks := l.stream.chunks ++ [octets] }, l.log ++ [.chunk octets]⟩
  else none

def putHead (l : Line) (status : Nat) (contentType : String) : Except RelayFailure Unit × Line :=
  if l.stream.headSent then (.ok (), l)
  else
    let l := { l with stream := { l.stream with headSent := true, head := none } }
    (.ok (), (l.handHead? status contentType).getD l)

def sendChunk (l : Line) (octets : Bytes) : Except RelayFailure Unit × Line :=
  if l.stream.noticedGone then (.ok (), l)
  else
    match l.handChunk? octets with
    | some l => (.ok (), l)
    | none => (.ok (), { l with stream := { l.stream with noticedGone := true } })

/-- A chunk is written after a head, which is written first if there is none. -/
def putChunk (patience : Option Nat) (l : Line) (octets : Bytes) :
    Except RelayFailure Unit × Line :=
  match if l.stream.headSent then (.ok (), l) else l.putHead 200 Write.jsonType with
  | (.error f, l) => (.error f, l)
  | (.ok (), l) => (l.attended patience).sendChunk octets

def put (patience : Option Nat) (l : Line) (w : Write) : Except RelayFailure Unit × Line :=
  match w with
  | .head status contentType => (l.attended patience).putHead status contentType
  | .chunk octets => (l.attended patience).putChunk patience octets

variable {patience : Option Nat} {l : Line} {pieces writes : List Write}

theorem putHead_eq (l : Line) (status : Nat) (contentType : String) :
    l.putHead status contentType = (.ok (), (l.putHead status contentType).2) := by
  unfold putHead
  split <;> rfl

theorem sendChunk_eq (l : Line) (octets : Bytes) :
    l.sendChunk octets = (.ok (), (l.sendChunk octets).2) := by
  unfold sendChunk
  split
  · rfl
  · split <;> rfl

def opened (l : Line) : Line :=
  if l.stream.headSent then l else (l.putHead 200 Write.jsonType).2

theorem putChunk_eq (patience : Option Nat) (l : Line) (octets : Bytes) :
    l.putChunk patience octets = (.ok (), ((l.opened.attended patience).sendChunk octets).2) := by
  unfold putChunk opened
  cases l.stream.headSent with
  | true => exact sendChunk_eq _ _
  | false =>
      simp only [Bool.false_eq_true, if_false]
      rw [putHead_eq]
      exact sendChunk_eq _ _

theorem put_eq (patience : Option Nat) (l : Line) (w : Write) :
    l.put patience w = (.ok (), (l.put patience w).2) := by
  cases w with
  | head status contentType => exact putHead_eq _ _ _
  | chunk octets =>
      rw [put, putChunk_eq]

theorem stream_putHead (l : Line) (status : Nat) (contentType : String) :
    (l.putHead status contentType).2.stream = l.stream.writeHead status contentType := by
  unfold putHead Stream.writeHead handHead?
  split
  · rfl
  · dsimp only
    split <;> rfl

theorem stream_sendChunk (hsent : l.stream.headSent = true) (octets : Bytes) :
    (l.sendChunk octets).2.stream = l.stream.writeChunk octets := by
  simp only [sendChunk, handChunk?, Stream.writeChunk, hsent, if_true]
  cases hnoticed : l.stream.noticedGone with
  | true => simp
  | false => cases l.stream.bodyOpen <;> rfl

theorem stream_opened (l : Line) : l.opened.stream =
    if l.stream.headSent then l.stream else l.stream.writeHead 200 Write.jsonType := by
  unfold opened
  split
  · rfl
  · exact stream_putHead _ _ _

theorem headSent_opened (l : Line) : l.opened.stream.headSent = true := by
  rw [stream_opened, Stream.writeHead]
  split
  · assumption
  · rfl

theorem headSent_attended (patience : Option Nat) (l : Line) :
    (l.attended patience).stream.headSent = l.stream.headSent := by
  unfold attended
  split <;> rfl

theorem stream_putChunk (patience : Option Nat) (l : Line) (octets : Bytes) :
    (l.putChunk patience octets).2.stream =
      (l.opened.attended patience).stream.writeChunk octets := by
  rw [putChunk_eq]
  exact stream_sendChunk ((headSent_attended patience _).trans (headSent_opened l)) octets

theorem comes_attended {s : Stream} (h : (l.attended patience).stream.Comes writes s) :
    l.stream.Comes writes s := by
  unfold attended at h
  split at h
  · exact .leave h
  · exact h

theorem comes_opened {s : Stream} {octets : Bytes}
    (h : l.opened.stream.Comes (.chunk octets :: writes) s) :
    l.stream.Comes (.chunk octets :: writes) s := by
  rw [stream_opened] at h
  split at h
  · exact h
  · next hunsent => exact .head (Bool.eq_false_of_not_eq_true hunsent) h

theorem comes_put {s : Stream} {w : Write} (h : (l.put patience w).2.stream.Comes writes s) :
    l.stream.Comes (w :: writes) s := by
  cases w with
  | head status contentType =>
      rw [put, stream_putHead] at h
      exact comes_attended (.write h)
  | chunk octets =>
      rw [put, stream_putChunk] at h
      exact comes_attended (comes_opened (comes_attended (.write h)))

theorem comes_putAll (patience : Option Nat) (l : Line) (writes : List Write) :
    l.stream.Comes writes (writes.foldl (fun l w => (l.put patience w).2) l).stream := by
  induction writes generalizing l with
  | nil => exact .done _
  | cons w rest ih => exact comes_put (ih _)

theorem stream_put (l : Line) (w : Write) : (l.put none w).2.stream = l.stream.write w := by
  cases w with
  | head status contentType => exact stream_putHead _ _ _
  | chunk octets =>
      refine (stream_putChunk none l octets).trans ?_
      change l.opened.stream.writeChunk octets = l.stream.writeChunk octets
      rw [Stream.writeChunk, headSent_opened, stream_opened]
      rfl

theorem stream_putAll (l : Line) (writes : List Write) :
    (writes.foldl (fun l w => (l.put none w).2) l).stream = l.stream.writeAll writes := by
  induction writes generalizing l with
  | nil => rfl
  | cons w rest ih => exact (ih _).trans (by rw [stream_put]; rfl)

/-! ### What a line keeps -/

structure Serves (patience : Option Nat) (l : Line) (pieces : List Write) : Prop where
  log : l.log = Write.upTo patience pieces
  sent : l.stream.headSent = !pieces.isEmpty
  head : l.stream.head.toList = l.log.filterMap Write.head?
  chunks : l.stream.chunks = l.log.filterMap Write.chunk?
  waiting : l.stream.headWaiting = l.stream.bodyOpen
  left : l.stream.bodyOpen = false → patience = some l.log.length
  noticed : l.stream.noticedGone = true → l.stream.bodyOpen = false

namespace Serves

theorem fresh (patience : Option Nat) : Serves patience {} [] where
  log := by cases patience <;> simp [Write.upTo]
  sent := rfl
  head := rfl
  chunks := rfl
  waiting := rfl
  left := nofun
  noticed := nofun

theorem attended (h : Serves patience l pieces) :
    Serves patience (l.attended patience) pieces ∧
      ((l.attended patience).stream.bodyOpen = true →
        patience ≠ some (l.attended patience).log.length) := by
  unfold Line.attended
  split
  · next hleft => exact ⟨⟨h.log, h.sent, h.head, h.chunks, rfl, fun _ => hleft, fun _ => rfl⟩, nofun⟩
  · next hstayed => exact ⟨h, fun _ => hstayed⟩

theorem putHead (h : Serves patience l [])
    (hstayed : l.stream.bodyOpen = true → patience ≠ some l.log.length) (status : Nat)
    (contentType : String) :
    Serves patience (l.putHead status contentType).2 [.head status contentType] := by
  have hunsent : l.stream.headSent = false := h.sent
  have hnil : l.log = [] := by
    rw [h.log]
    cases patience <;> simp [Write.upTo]
  cases hopen : l.stream.bodyOpen with
  | true =>
      have hput : (l.putHead status contentType).2 =
          ⟨{ l.stream with headSent := true, head := some (status, contentType) },
            l.log ++ [.head status contentType]⟩ := by
        simp [Line.putHead, handHead?, hunsent, h.waiting, hopen]
      rw [hput]
      exact {
        log := by
          rw [h.log]
          exact (Write.upTo_concat_of_stayed (h.log ▸ hstayed hopen) _).symm
        sent := rfl
        head := by
          rw [hnil]
          rfl
        chunks := by
          rw [h.chunks, hnil]
          rfl
        waiting := h.waiting
        left := fun hclosed => nomatch hopen.symm.trans hclosed
        noticed := h.noticed }
  | false =>
      have hput : (l.putHead status contentType).2 =
          ⟨{ l.stream with headSent := true, head := none }, l.log⟩ := by
        simp [Line.putHead, handHead?, hunsent, h.waiting, hopen]
      rw [hput]
      exact {
        log := by
          rw [h.log]
          exact (Write.upTo_append_of_left (h.log ▸ h.left hopen) _).symm
        sent := rfl
        head := by
          rw [hnil]
          rfl
        chunks := h.chunks
        waiting := h.waiting
        left := h.left
        noticed := h.noticed }

theorem sendChunk (h : Serves patience l pieces) (hne : pieces ≠ [])
    (hstayed : l.stream.bodyOpen = true → patience ≠ some l.log.length) (octets : Bytes) :
    Serves patience (l.sendChunk octets).2 (pieces ++ [.chunk octets]) := by
  have hsent : l.stream.headSent = !(pieces ++ [Write.chunk octets]).isEmpty := by
    rw [h.sent]
    cases pieces with
    | nil => contradiction
    | cons first rest => rfl
  cases hopen : l.stream.bodyOpen with
  | true =>
      have hunnoticed : l.stream.noticedGone = false := by
        cases hnoticed : l.stream.noticedGone with
        | true => cases hopen.symm.trans (h.noticed hnoticed)
        | false => rfl
      have hsend : (l.sendChunk octets).2 =
          ⟨{ l.stream with chunks := l.stream.chunks ++ [octets] }, l.log ++ [.chunk octets]⟩ := by
        simp [Line.sendChunk, handChunk?, hunnoticed, hopen]
      rw [hsend]
      exact {
        log := by
          rw [h.log]
          exact (Write.upTo_concat_of_stayed (h.log ▸ hstayed hopen) _).symm
        sent := hsent
        head := by
          rw [List.filterMap_append, ← h.head]
          exact (List.append_nil _).symm
        chunks := by
          rw [List.filterMap_append, ← h.chunks]
          rfl
        waiting := h.waiting
        left := fun hclosed => nomatch hopen.symm.trans hclosed
        noticed := h.noticed }
  | false =>
      have hlog : l.log = Write.upTo patience (pieces ++ [.chunk octets]) := by
        rw [h.log]
        exact (Write.upTo_append_of_left (h.log ▸ h.left hopen) _).symm
      have hsend : ∃ noticedGone, (l.sendChunk octets).2 =
          ⟨{ l.stream with noticedGone }, l.log⟩ := by
        cases hnoticed : l.stream.noticedGone with
        | true => exact ⟨true, by simp [Line.sendChunk, hnoticed]; rw [← hnoticed]⟩
        | false => exact ⟨true, by simp [Line.sendChunk, handChunk?, hnoticed, hopen]⟩
      obtain ⟨noticedGone, hsend⟩ := hsend
      rw [hsend]
      exact ⟨hlog, hsent, h.head, h.chunks, h.waiting, h.left, fun _ => hopen⟩

theorem opened (h : Serves patience l (Write.pieces writes))
    (hstayed : l.stream.bodyOpen = true → patience ≠ some l.log.length) (octets : Bytes) :
    ∃ pieces, pieces ≠ [] ∧ Serves patience l.opened pieces ∧
      pieces ++ [.chunk octets] = Write.pieces (writes ++ [.chunk octets]) := by
  unfold Line.opened
  by_cases hnil : writes = []
  · subst hnil
    have hunsent : l.stream.headSent = false := h.sent
    rw [hunsent, if_neg (by decide)]
    exact ⟨_, List.cons_ne_nil _ _, h.putHead hstayed 200 Write.jsonType, rfl⟩
  · have hpieces : Write.pieces writes ≠ [] := fun h => hnil (Write.pieces_eq_nil_iff.mp h)
    have hsent : l.stream.headSent = true := by
      rw [h.sent]
      simpa using hpieces
    rw [if_pos hsent]
    exact ⟨_, hpieces, h, (Write.pieces_concat hnil (.chunk octets)).symm⟩

theorem put (h : Serves patience l (Write.pieces writes)) (w : Write) :
    Serves patience (l.put patience w).2 (Write.pieces (writes ++ [w])) := by
  obtain ⟨hattended, hstayed⟩ := h.attended
  cases w with
  | head status contentType =>
      by_cases hnil : writes = []
      · subst hnil
        exact hattended.putHead hstayed status contentType
      · have hsent : (l.attended patience).stream.headSent = true := by
          rw [hattended.sent]
          simpa [Write.pieces_eq_nil_iff] using hnil
        have hnone : ([Write.head status contentType].filterMap Write.chunk?).map Write.chunk =
            [] := rfl
        rw [Write.pieces_concat hnil, hnone, List.append_nil]
        simp only [Line.put, Line.putHead, hsent, if_true]
        exact hattended
  | chunk octets =>
      obtain ⟨pieces, hne, hopened, hpieces⟩ := hattended.opened hstayed octets
      obtain ⟨hattended', hstayed'⟩ := hopened.attended
      rw [Line.put, putChunk_eq, ← hpieces]
      exact hattended'.sendChunk hne hstayed' octets

theorem putAll (h : Serves patience l (Write.pieces writes)) (later : List Write) :
    Serves patience (later.foldl (fun l w => (l.put patience w).2) l)
      (Write.pieces (writes ++ later)) := by
  induction later generalizing l writes with
  | nil => simpa using h
  | cons w later ih => simpa using ih (h.put w)

theorem putAll_fresh (patience : Option Nat) (writes : List Write) :
    Serves patience (writes.foldl (fun l w => (Line.put patience l w).2) {})
      (Write.pieces writes) :=
  have hfresh : Serves patience {} (Write.pieces []) := fresh patience
  hfresh.putAll writes

end Serves

end Line

/-- A program that writes and goes on with the answer to each write. -/
inductive Handler where
  | finish (outcome : Except Halt Usage)
  | write (w : Write) (next : Except RelayFailure Unit → Handler)

namespace Handler

/-- The result of a handler, its writes with their answers, and the sink that is left. -/
structure Ran (S : Type) where
  outcome : Except Halt Usage
  answered : List (Write × Except RelayFailure Unit)
  sink : S

def run {S : Type} (put : S → Write → Except RelayFailure Unit × S) : Handler → S → Ran S
  | .finish outcome, s => ⟨outcome, [], s⟩
  | .write w next, s =>
    let (answer, s) := put s w
    let rest := run put (next answer) s
    { rest with answered := (w, answer) :: rest.answered }

def unrefused : Handler → List Write × Except Halt Usage
  | .finish outcome => ([], outcome)
  | .write w next =>
    let (writes, outcome) := unrefused (next (.ok ()))
    (w :: writes, outcome)

theorem run_of_accepting {S : Type} {put : S → Write → Except RelayFailure Unit × S}
    (h : ∀ s w, put s w = (.ok (), (put s w).2)) (p : Handler) (s : S) :
    p.run put s = ⟨p.unrefused.2, p.unrefused.1.map (·, .ok ()),
      p.unrefused.1.foldl (fun s w => (put s w).2) s⟩ := by
  induction p generalizing s with
  | finish outcome => rfl
  | write w next ih =>
      rw [run, h s w]
      dsimp only
      rw [ih (.ok ()) (put s w).2]
      rfl

def ofWrites (outcome : Except Halt Usage) : List Write → Handler
  | [] => .finish outcome
  | w :: rest => .write w fun
    | .ok () => ofWrites outcome rest
    | .error f => .finish (.error (.failed f))

theorem unrefused_ofWrites (outcome : Except Halt Usage) (writes : List Write) :
    (ofWrites outcome writes).unrefused = (writes, outcome) := by
  induction writes with
  | nil => rfl
  | cons w rest ih => rw [ofWrites, unrefused, ih]

end Handler

/-! ### Responses in memory -/

namespace Buffer

def put (b : Buffer) (w : Write) : Except RelayFailure Unit × Buffer :=
  (.ok (), b.write w)

theorem body_writeAll (b : Buffer) (writes : List Write) :
    (b.writeAll writes).body = b.body ++ (writes.filterMap Write.chunk?).flatten := by
  induction writes generalizing b with
  | nil => simp [writeAll]
  | cons w rest ih =>
      have hrest : (b.writeAll (w :: rest)).body = ((b.write w).writeAll rest).body := rfl
      rw [hrest, ih]
      cases w with
      | head status contentType =>
          rw [write, List.filterMap_cons_none rfl]
          split <;> rfl
      | chunk octets =>
          have hchunk : Write.chunk? (.chunk octets) = some octets := rfl
          rw [write, List.filterMap_cons_some hchunk, List.flatten_cons, List.append_assoc]

theorem head_writeAll {b : Buffer} {status : Nat} (h : b.status = some status)
    (writes : List Write) :
    (b.writeAll writes).status = some status ∧ (b.writeAll writes).contentType = b.contentType := by
  induction writes generalizing b with
  | nil => exact ⟨h, rfl⟩
  | cons w rest ih =>
      have hwrite : (b.write w).status = some status ∧ (b.write w).contentType = b.contentType := by
        cases w <;> simp [write, h]
      obtain ⟨hstatus, hcontentType⟩ := ih hwrite.1
      exact ⟨hstatus, hcontentType.trans hwrite.2⟩

end Buffer

structure Reaches (patience : Option Nat) (writes : List Write) (l : Line) (b : Buffer) :
    Prop where
  log : l.log = Write.upTo patience (Write.pieces writes)
  heads : l.log.filterMap Write.head? <+: (writes.head?.map Write.opening).toList
  body : (l.log.filterMap Write.chunk?).flatten <+: b.body
  whole : patience = none → (l.log.filterMap Write.chunk?).flatten = b.body
  head : l.stream.head.toList = l.log.filterMap Write.head?
  chunks : l.stream.chunks = l.log.filterMap Write.chunk?
  course : Stream.fresh.Comes writes l.stream
  stays : patience = none → l.stream = Stream.fresh.writeAll writes

theorem reaches_putAll (patience : Option Nat) (writes : List Write) :
    Reaches patience writes (writes.foldl (fun l w => (Line.put patience l w).2) {})
      (Buffer.empty.writeAll writes) := by
  have hserves := Line.Serves.putAll_fresh patience writes
  have hbody : (Buffer.empty.writeAll writes).body = (writes.filterMap Write.chunk?).flatten :=
    Buffer.body_writeAll _ _
  have hprefix := Write.upTo_prefix patience (Write.pieces writes)
  have hheads := hprefix.filterMap Write.head?
  have hchunks := hprefix.filterMap Write.chunk?
  rw [← hserves.log, Write.filterMap_head?_pieces] at hheads
  rw [← hserves.log, Write.filterMap_chunk?_pieces] at hchunks
  refine ⟨hserves.log, hheads, ?_, ?_, hserves.head, hserves.chunks,
    Line.comes_putAll patience {} writes, ?_⟩
  · obtain ⟨later, hlater⟩ := hchunks
    rw [hbody, ← hlater, List.flatten_append]
    exact List.prefix_append _ _
  · rintro rfl
    rw [hserves.log, hbody]
    exact congrArg List.flatten (Write.filterMap_chunk?_pieces writes)
  · rintro rfl
    exact Line.stream_putAll {} writes

namespace Handler

theorem run_line (p : Handler) (patience : Option Nat) :
    p.run (Line.put patience) {} = ⟨p.unrefused.2, p.unrefused.1.map (·, .ok ()),
      p.unrefused.1.foldl (fun l w => (Line.put patience l w).2) {}⟩ :=
  run_of_accepting (Line.put_eq patience) p {}

theorem run_buffer (p : Handler) :
    p.run Buffer.put .empty = ⟨p.unrefused.2, p.unrefused.1.map (·, .ok ()),
      Buffer.empty.writeAll p.unrefused.1⟩ :=
  run_of_accepting (fun _ _ => rfl) p Buffer.empty

end Handler

def Handled.handler (h : Handled) : Handler := .ofWrites h.outcome h.writes

theorem Handled.Committed.opens {h : Handled} (hcommitted : h.Committed) {w : Write}
    {rest : List Write} (hwrites : h.writes = w :: rest) :
    (Buffer.ofWrites h.writes).status = some w.opening.1 ∧
      (Buffer.ofWrites h.writes).contentType = some w.opening.2 := by
  cases hcommitted with
  | failed f => cases hwrites
  | lost => cases hwrites
  | begun contentType hchunks houtcome =>
      cases hwrites
      exact Buffer.head_writeAll (b := Buffer.empty.write (.head 200 contentType)) rfl rest

def Relayed.reaching (patience : Option Nat) (r : Relayed) : Relayed :=
  { r with outcome := ((Handler.ofWrites r.outcome r.writes).run (Line.put patience) {}).outcome }

theorem Relayed.reaching_eq (patience : Option Nat) (r : Relayed) : r.reaching patience = r := by
  rw [reaching, Handler.run_line, Handler.unrefused_ofWrites]

namespace Handler

/-- Whenever its client leaves, a handler ends as it does with a response in memory and makes the
same writes, none of them is refused, and the client has received the beginning of that response. -/
theorem leaving_changes_nothing :
    (∀ (p : Handler) (patience : Option Nat),
      let streamed := p.run (Line.put patience) {}
      let collected := p.run Buffer.put .empty
      streamed.outcome = collected.outcome ∧ streamed.answered = collected.answered ∧
      (∀ answered ∈ streamed.answered, answered.2 = .ok ()) ∧
      Reaches patience (streamed.answered.map Prod.fst) streamed.sink collected.sink) ∧
    (∀ g call r stamp patience,
      let handled := (Wire.handle g call r stamp).1
      let streamed := handled.handler.run (Line.put patience) {}
      let collected := handled.handler.run Buffer.put .empty
      streamed.outcome = handled.outcome ∧ collected.outcome = handled.outcome ∧
      collected.sink = Buffer.ofWrites handled.writes ∧
      ∀ head ∈ streamed.sink.log.filterMap Write.head?,
        collected.sink.status = some head.1 ∧ collected.sink.contentType = some head.2) ∧
    ∀ {σ : Type} (o : Order) (s : Settings) (network : Network σ) (w : RelayState σ) patience,
      (o.run s network w).2.ledger =
        o.settle s.pricing ((o.relayed s network w).reaching patience) w.ledger := by
  refine ⟨fun p patience => ?_, fun g call r stamp patience => ?_, fun o s network w patience => ?_⟩
  · rw [p.run_line, p.run_buffer]
    have hwrites : (p.unrefused.1.map fun w => (w, (.ok () : Except RelayFailure Unit))).map
        Prod.fst = p.unrefused.1 := by
      rw [List.map_map]
      exact List.map_id _
    refine ⟨rfl, rfl, fun answered hanswered => ?_, ?_⟩
    · obtain ⟨w, -, rfl⟩ := List.mem_map.mp hanswered
      rfl
    · rw [hwrites]
      exact reaches_putAll patience p.unrefused.1
  · have hcommitted := Wire.committed_handle g call r stamp
    intro handled
    change handled.Committed at hcommitted
    clear_value handled
    rw [handled.handler.run_line, handled.handler.run_buffer, Handled.handler,
      Handler.unrefused_ofWrites]
    refine ⟨rfl, rfl, rfl, fun head hhead => ?_⟩
    have hreceived := (reaches_putAll patience handled.writes).heads.subset hhead
    cases hwrites : handled.writes with
    | nil =>
        rw [hwrites] at hreceived
        cases hreceived
    | cons w rest =>
        rw [hwrites] at hreceived
        obtain rfl := List.mem_singleton.mp hreceived
        rw [← hwrites]
        exact hcommitted.opens hwrites
  · rw [Relayed.reaching_eq]
    exact o.ledger_run s network w

theorem leaving_changes_nothing_early :
    let writes := [Write.startEvents, .chunk [0x61], .chunk [0x62]]
    let handled : Handled := ⟨writes, .ok ⟨1, 2, 3, none, none⟩⟩
    let streamed := handled.handler.run (Line.put (some 2)) {}
    streamed.outcome = .ok ⟨1, 2, 3, none, none⟩ ∧
    streamed.sink.log = [Write.startEvents, .chunk [0x61]] ∧
    (∀ answered ∈ streamed.answered, answered.2 = .ok ()) ∧
    ((handled.handler.run (Line.put none) {}).sink.log.filterMap Write.chunk?).flatten =
      [0x61, 0x62] := by
  intro writes handled streamed
  obtain ⟨hhandlers, -, -⟩ := leaving_changes_nothing
  obtain ⟨houtcome, -, hanswered, hreaches⟩ := hhandlers handled.handler (some 2)
  obtain ⟨-, -, -, hstays⟩ := hhandlers handled.handler none
  exact ⟨houtcome, hreaches.log, hanswered, hstays.whole rfl⟩

end Handler

end ModelGateway
