import Passage.Proofs.Target.Layout

namespace Passage

/-- The text in front of a byte, and the text that begins with it. There is no such text if the byte is inside
a character or beyond the end. -/
def cutAt? (text : String) (byte : Nat) : Option (String × String) :=
  if h : String.Pos.Raw.IsValid text ⟨byte⟩ then
    some ((text.sliceTo (text.pos ⟨byte⟩ h)).copy, (text.sliceFrom (text.pos ⟨byte⟩ h)).copy)
  else none

theorem cutAt?_append (front behind : String) :
    cutAt? (front ++ behind) front.utf8ByteSize = some (front, behind) := by
  have valid : String.Pos.Raw.IsValid (front ++ behind) ⟨front.utf8ByteSize⟩ :=
    String.Pos.Raw.isValid_iff_exists_append.mpr ⟨_, _, rfl, rfl⟩
  have splits : ((front ++ behind).pos ⟨front.utf8ByteSize⟩ valid).Splits front behind := ⟨rfl, by simp; rfl⟩
  rw [cutAt?, dif_pos valid, splits.copy_sliceTo_eq, splits.copy_sliceFrom_eq]

/-- A URI with its text in one piece. It knows at which bytes its authority begins and ends. -/
structure WholeUri where
  raw : String
  start : Nat
  stop : Nat
  dialect : Dialect
  user : Option String
  password : Option String
  host : String
  port : Option UInt16
  database : Option String
  query : String
  deriving DecidableEq

namespace WholeUri

def parts? (u : WholeUri) : Option (String × String × String) :=
  (cutAt? u.raw u.stop).bind fun (front, tail) =>
    (cutAt? front u.start).map fun (lead, authority) => (lead, authority, tail)

/-- Puts another host and port in the place of the authority. -/
def moveTo? (u : WholeUri) (host : String) (port : UInt16) : Option WholeUri :=
  let authority := authorityText host (some port)
  (cutAt? u.raw u.start).bind fun (lead, _) =>
    (cutAt? u.raw u.stop).map fun (_, tail) =>
      { u with
        raw := lead ++ authority ++ tail, stop := u.start + authority.utf8ByteSize, host
        port := some port }

def moves? (u : WholeUri) : List (String × UInt16) → Option WholeUri
  | [] => some u
  | (host, port) :: more => (u.moveTo? host port).bind (·.moves? more)

end WholeUri

namespace TargetUri

def whole (uri : TargetUri) : WholeUri where
  raw := uri.raw
  start := uri.span.1
  stop := uri.span.2
  dialect := uri.dialect
  user := uri.user
  password := uri.password
  host := uri.host
  port := uri.port
  database := uri.database
  query := uri.query

variable (uri : TargetUri)

theorem cutAt?_start : cutAt? uri.raw uri.span.1 = some (uri.lead, uri.authority ++ uri.tail) := by
  rw [raw, String.append_assoc]
  exact cutAt?_append _ _

theorem cutAt?_stop : cutAt? uri.raw uri.span.2 = some (uri.lead ++ uri.authority, uri.tail) := by
  rw [raw, span, ← String.utf8ByteSize_append]
  exact cutAt?_append _ _

theorem parts?_whole : uri.whole.parts? = some (uri.lead, uri.authority, uri.tail) := by
  unfold WholeUri.parts? whole
  dsimp only
  rw [cutAt?_stop, Option.bind_some]
  dsimp only
  rw [span, cutAt?_append]
  rfl

/-- A move of the text in one piece is a move of its parts. -/
theorem moveTo?_whole (host : String) (port : UInt16) :
    uri.whole.moveTo? host port = some (uri.moveTo host port).whole := by
  unfold WholeUri.moveTo? whole
  dsimp only
  rw [cutAt?_start, cutAt?_stop]
  rfl

/-- One move after another. -/
def moves (uri : TargetUri) (more : List (String × UInt16)) : TargetUri :=
  more.foldl (fun uri (host, port) => uri.moveTo host port) uri

theorem moves?_whole (more : List (String × UInt16)) : uri.whole.moves? more = some (uri.moves more).whole := by
  induction more generalizing uri with
  | nil => rfl
  | cons move more ih =>
    rw [WholeUri.moves?, moveTo?_whole, Option.bind_some]
    exact ih _

/-- Of what was moved before, nothing is left. -/
theorem moves_concat (more : List (String × UInt16)) (host : String) (port : UInt16) :
    uri.moves (more ++ [(host, port)]) = uri.moveTo host port := by
  induction more generalizing uri with
  | nil => rfl
  | cons move more ih => exact ih (uri.moveTo move.1 move.2)

variable {uri}

/-- However often an accepted URI is moved, its text can be cut where the authority begins and ends, and it is
as if it had been moved once, to the last place: between the cuts stands the new host and port, and around them
what stood there at first. -/
theorem last_move_wins {text : String} (read : parse text = .ok uri) (more : List (String × UInt16))
    (host : String) (port : UInt16) :
    let authority := authorityText host (some port)
    ∃ lead tail, uri.whole.raw = text ∧ uri.whole.parts? = some (lead, uri.authority, tail) ∧
      let moved : WholeUri :=
        { uri.whole with
          raw := lead ++ authority ++ tail, stop := uri.whole.start + authority.utf8ByteSize, host
          port := some port }
      uri.whole.moves? (more ++ [(host, port)]) = some moved ∧ uri.whole.moveTo? host port = some moved ∧
        moved.parts? = some (lead, authority, tail) ∧
        (uri.moves (more ++ [(host, port)])).whole = moved ∧
        uri.moves (more ++ [(host, port)]) = uri.moveTo host port := by
  obtain ⟨scheme, l, written⟩ := parse_eq_ok_iff.mp read
  refine ⟨uri.lead, uri.tail, written.raw, uri.parts?_whole, ?_⟩
  rw [moves?_whole, moves_concat]
  exact ⟨rfl, uri.moveTo?_whole host port, (uri.moveTo host port).parts?_whole, rfl, rfl⟩

/-- Hosts that are empty, hold colons, and hold letters of two bytes and every mark that divides a URI. -/
theorem last_move_wins_marked :
    ∃ uri moved, parse "postgres://app:pä@db:5432/app?x=1" = .ok uri ∧
      uri.whole.moves? [("", 1), ("::1", 2), ("bü:@/?", 3)] = some moved ∧
      moved.raw = "postgres://app:pä@[bü:@/?]:3/app?x=1" ∧
      moved.parts? = some ("postgres://app:pä@", "[bü:@/?]:3", "/app?x=1") ∧ moved.password = some "pä" := by
  let uri : TargetUri := {
    lead := "postgres://app:pä@", authority := "db:5432", tail := "/app?x=1", dialect := .postgres
    user := some "app", password := some "pä", host := "db", port := some 5432, database := some "app"
    query := "x=1" }
  have read : parse "postgres://app:pä@db:5432/app?x=1" = .ok uri := by cbv
  obtain ⟨lead, tail, -, parts, moves, -, cut, -⟩ := last_move_wins read [("", 1), ("::1", 2)] "bü:@/?" 3
  cases parts.symm.trans uri.parts?_whole
  have text : authorityText "bü:@/?" (some 3) = "[bü:@/?]:3" := by decide +kernel
  refine ⟨uri, _, read, moves, ?_, ?_, rfl⟩
  · rw [text]
    decide +kernel
  · rw [cut, text]

end TargetUri
end Passage
