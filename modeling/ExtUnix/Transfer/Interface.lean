import ExtUnix.Transfer.Loop

namespace ExtUnix.Transfer

open ExtUnix.Runtime

/-! The entry points: for each operation the `unsafe` C stub, which picks the
mode bits and widens the offset, and the OCaml function that checks the
arguments first. -/

def invalidArg (message : String) (buf : Buffer) : Run :=
  ⟨.invalidArgument message, buf, []⟩

def outOfRange (buf : Buffer) (ofs len : CamlInt) : Bool :=
  ofs.slt 0 || len.slt 0 || (buf.length - len).slt ofs

def checkRange (message : String)
    (stub : CamlInt → Buffer → CamlInt → CamlInt → List Answer → Run)
    (fd : CamlInt) (buf : Buffer) (ofs len : CamlInt)
    (answers : List Answer) : Run :=
  if outOfRange buf ofs len then invalidArg message buf
  else stub fd buf ofs len answers

def checkOffsetRange (message : String)
    (stub : CamlInt → CamlInt → Buffer → CamlInt → CamlInt → List Answer → Run)
    (fd off : CamlInt) (buf : Buffer) (ofs len : CamlInt)
    (answers : List Answer) : Run :=
  if off.slt 0 || outOfRange buf ofs len then invalidArg message buf
  else stub fd off buf ofs len answers

/-- The only check of the string functions of `LargeFile`. -/
def checkLargeOffset (message : String)
    (stub : CamlInt → BitVec 64 → Buffer → CamlInt → CamlInt →
      List Answer → Run)
    (fd : CamlInt) (off : BitVec 64) (buf : Buffer) (ofs len : CamlInt)
    (answers : List Answer) : Run :=
  if off.slt 0 then invalidArg message buf
  else stub fd off buf ofs len answers

section Strings

variable (unixBufferSize : Nat)

def unsafeAllPread (fd off : CamlInt) (buf : Buffer) (ofs len : CamlInt) :
    List Answer → Run :=
  preadCommon unixBufferSize fd (longVal off) buf ofs len
    bitNoIntr

def allPread : CamlInt → CamlInt → Buffer → CamlInt → CamlInt →
    List Answer → Run :=
  checkOffsetRange "ExtUnix.all_pread"
    (unsafeAllPread unixBufferSize)

def unsafeSinglePread (fd off : CamlInt) (buf : Buffer) (ofs len : CamlInt) :
    List Answer → Run :=
  preadCommon unixBufferSize fd (longVal off) buf ofs len
    bitOnce

def singlePread : CamlInt → CamlInt → Buffer → CamlInt → CamlInt →
    List Answer → Run :=
  checkOffsetRange "ExtUnix.single_pread"
    (unsafeSinglePread unixBufferSize)

def unsafePread (fd off : CamlInt) (buf : Buffer) (ofs len : CamlInt) :
    List Answer → Run :=
  preadCommon unixBufferSize fd (longVal off) buf ofs len
    (bitNoIntr ||| bitNoError)

def pread : CamlInt → CamlInt → Buffer → CamlInt → CamlInt →
    List Answer → Run :=
  checkOffsetRange "ExtUnix.pread"
    (unsafePread unixBufferSize)

def unsafeIntrPread (fd off : CamlInt) (buf : Buffer) (ofs len : CamlInt) :
    List Answer → Run :=
  preadCommon unixBufferSize fd (longVal off) buf ofs len
    bitNoError

def intrPread : CamlInt → CamlInt → Buffer → CamlInt → CamlInt →
    List Answer → Run :=
  checkOffsetRange "ExtUnix.intr_pread"
    (unsafeIntrPread unixBufferSize)

def unsafeAllPwrite (fd off : CamlInt) (buf : Buffer) (ofs len : CamlInt) :
    List Answer → Run :=
  pwriteCommon unixBufferSize fd (longVal off) buf ofs len
    bitNoIntr

def allPwrite : CamlInt → CamlInt → Buffer → CamlInt → CamlInt →
    List Answer → Run :=
  checkOffsetRange "ExtUnix.all_pwrite"
    (unsafeAllPwrite unixBufferSize)

def unsafeSinglePwrite (fd off : CamlInt) (buf : Buffer) (ofs len : CamlInt) :
    List Answer → Run :=
  pwriteCommon unixBufferSize fd (longVal off) buf ofs len
    bitOnce

def singlePwrite : CamlInt → CamlInt → Buffer → CamlInt → CamlInt →
    List Answer → Run :=
  checkOffsetRange "ExtUnix.single_pwrite"
    (unsafeSinglePwrite unixBufferSize)

def unsafePwrite (fd off : CamlInt) (buf : Buffer) (ofs len : CamlInt) :
    List Answer → Run :=
  pwriteCommon unixBufferSize fd (longVal off) buf ofs len
    (bitNoIntr ||| bitNoError)

def pwrite : CamlInt → CamlInt → Buffer → CamlInt → CamlInt →
    List Answer → Run :=
  checkOffsetRange "ExtUnix.pwrite"
    (unsafePwrite unixBufferSize)

def unsafeIntrPwrite (fd off : CamlInt) (buf : Buffer) (ofs len : CamlInt) :
    List Answer → Run :=
  pwriteCommon unixBufferSize fd (longVal off) buf ofs len
    bitNoError

def intrPwrite : CamlInt → CamlInt → Buffer → CamlInt → CamlInt →
    List Answer → Run :=
  checkOffsetRange "ExtUnix.intr_pwrite"
    (unsafeIntrPwrite unixBufferSize)

def unsafeAllRead (fd : CamlInt) (buf : Buffer) (ofs len : CamlInt) :
    List Answer → Run :=
  readCommon unixBufferSize fd buf ofs len bitNoIntr

def allRead : CamlInt → Buffer → CamlInt → CamlInt → List Answer → Run :=
  checkRange "ExtUnix.all_read" (unsafeAllRead unixBufferSize)

def unsafeSingleRead (fd : CamlInt) (buf : Buffer) (ofs len : CamlInt) :
    List Answer → Run :=
  readCommon unixBufferSize fd buf ofs len bitOnce

def singleRead : CamlInt → Buffer → CamlInt → CamlInt → List Answer → Run :=
  checkRange "ExtUnix.single_read" (unsafeSingleRead unixBufferSize)

def unsafeRead (fd : CamlInt) (buf : Buffer) (ofs len : CamlInt) :
    List Answer → Run :=
  readCommon unixBufferSize fd buf ofs len (bitNoIntr ||| bitNoError)

def read : CamlInt → Buffer → CamlInt → CamlInt → List Answer → Run :=
  checkRange "ExtUnix.read" (unsafeRead unixBufferSize)

def unsafeIntrRead (fd : CamlInt) (buf : Buffer) (ofs len : CamlInt) :
    List Answer → Run :=
  readCommon unixBufferSize fd buf ofs len bitNoError

def intrRead : CamlInt → Buffer → CamlInt → CamlInt → List Answer → Run :=
  checkRange "ExtUnix.intr_read" (unsafeIntrRead unixBufferSize)

def unsafeAllWrite (fd : CamlInt) (buf : Buffer) (ofs len : CamlInt) :
    List Answer → Run :=
  writeCommon unixBufferSize fd buf ofs len bitNoIntr

def allWrite : CamlInt → Buffer → CamlInt → CamlInt → List Answer → Run :=
  checkRange "ExtUnix.all_write" (unsafeAllWrite unixBufferSize)

def unsafeSingleWrite (fd : CamlInt) (buf : Buffer) (ofs len : CamlInt) :
    List Answer → Run :=
  writeCommon unixBufferSize fd buf ofs len bitOnce

def singleWrite : CamlInt → Buffer → CamlInt → CamlInt → List Answer → Run :=
  checkRange "ExtUnix.single_write" (unsafeSingleWrite unixBufferSize)

def unsafeWrite (fd : CamlInt) (buf : Buffer) (ofs len : CamlInt) :
    List Answer → Run :=
  writeCommon unixBufferSize fd buf ofs len (bitNoIntr ||| bitNoError)

def write : CamlInt → Buffer → CamlInt → CamlInt → List Answer → Run :=
  checkRange "ExtUnix.write" (unsafeWrite unixBufferSize)

def unsafeIntrWrite (fd : CamlInt) (buf : Buffer) (ofs len : CamlInt) :
    List Answer → Run :=
  writeCommon unixBufferSize fd buf ofs len bitNoError

def intrWrite : CamlInt → Buffer → CamlInt → CamlInt → List Answer → Run :=
  checkRange "ExtUnix.intr_write" (unsafeIntrWrite unixBufferSize)

namespace LargeFile

def unsafeAllPread (fd : CamlInt) (off : BitVec 64) (buf : Buffer)
    (ofs len : CamlInt) : List Answer → Run :=
  preadCommon unixBufferSize fd off buf ofs len
    bitNoIntr

def allPread : CamlInt → BitVec 64 → Buffer → CamlInt → CamlInt →
    List Answer → Run :=
  checkLargeOffset "ExtUnix.LargeFile.all_pread"
    (unsafeAllPread unixBufferSize)

def unsafeSinglePread (fd : CamlInt) (off : BitVec 64) (buf : Buffer)
    (ofs len : CamlInt) : List Answer → Run :=
  preadCommon unixBufferSize fd off buf ofs len
    bitOnce

def singlePread : CamlInt → BitVec 64 → Buffer → CamlInt → CamlInt →
    List Answer → Run :=
  checkLargeOffset "ExtUnix.LargeFile.single_pread"
    (unsafeSinglePread unixBufferSize)

def unsafePread (fd : CamlInt) (off : BitVec 64) (buf : Buffer)
    (ofs len : CamlInt) : List Answer → Run :=
  preadCommon unixBufferSize fd off buf ofs len
    (bitNoIntr ||| bitNoError)

def pread : CamlInt → BitVec 64 → Buffer → CamlInt → CamlInt →
    List Answer → Run :=
  checkLargeOffset "ExtUnix.LargeFile.pread"
    (unsafePread unixBufferSize)

def unsafeIntrPread (fd : CamlInt) (off : BitVec 64) (buf : Buffer)
    (ofs len : CamlInt) : List Answer → Run :=
  preadCommon unixBufferSize fd off buf ofs len
    bitNoError

def intrPread : CamlInt → BitVec 64 → Buffer → CamlInt → CamlInt →
    List Answer → Run :=
  checkLargeOffset "ExtUnix.LargeFile.intr_pread"
    (unsafeIntrPread unixBufferSize)

def unsafeAllPwrite (fd : CamlInt) (off : BitVec 64) (buf : Buffer)
    (ofs len : CamlInt) : List Answer → Run :=
  pwriteCommon unixBufferSize fd off buf ofs len
    bitNoIntr

def allPwrite : CamlInt → BitVec 64 → Buffer → CamlInt → CamlInt →
    List Answer → Run :=
  checkLargeOffset "ExtUnix.LargeFile.all_pwrite"
    (unsafeAllPwrite unixBufferSize)

def unsafeSinglePwrite (fd : CamlInt) (off : BitVec 64) (buf : Buffer)
    (ofs len : CamlInt) : List Answer → Run :=
  pwriteCommon unixBufferSize fd off buf ofs len
    bitOnce

def singlePwrite : CamlInt → BitVec 64 → Buffer → CamlInt → CamlInt →
    List Answer → Run :=
  checkLargeOffset "ExtUnix.LargeFile.single_pwrite"
    (unsafeSinglePwrite unixBufferSize)

def unsafePwrite (fd : CamlInt) (off : BitVec 64) (buf : Buffer)
    (ofs len : CamlInt) : List Answer → Run :=
  pwriteCommon unixBufferSize fd off buf ofs len
    (bitNoIntr ||| bitNoError)

def pwrite : CamlInt → BitVec 64 → Buffer → CamlInt → CamlInt →
    List Answer → Run :=
  checkLargeOffset "ExtUnix.LargeFile.pwrite"
    (unsafePwrite unixBufferSize)

def unsafeIntrPwrite (fd : CamlInt) (off : BitVec 64) (buf : Buffer)
    (ofs len : CamlInt) : List Answer → Run :=
  pwriteCommon unixBufferSize fd off buf ofs len
    bitNoError

def intrPwrite : CamlInt → BitVec 64 → Buffer → CamlInt → CamlInt →
    List Answer → Run :=
  checkLargeOffset "ExtUnix.LargeFile.intr_pwrite"
    (unsafeIntrPwrite unixBufferSize)

end LargeFile

end Strings

/-! Bigarray variants: the whole array is transferred. -/

namespace BA

def checkOffset (message : String)
    (stub : CamlInt → CamlInt → Buffer → List Answer → Run)
    (fd off : CamlInt) (buf : Buffer) (answers : List Answer) : Run :=
  if off.slt 0 then invalidArg message buf else stub fd off buf answers

def unsafeAllPread (fd off : CamlInt) (buf : Buffer) :
    List Answer → Run :=
  BA.preadCommon fd (longVal off) buf bitNoIntr

def allPread : CamlInt → CamlInt → Buffer → List Answer → Run :=
  checkOffset "ExtUnix.all_pread" unsafeAllPread

def unsafeSinglePread (fd off : CamlInt) (buf : Buffer) :
    List Answer → Run :=
  BA.preadCommon fd (longVal off) buf bitOnce

def singlePread : CamlInt → CamlInt → Buffer → List Answer → Run :=
  checkOffset "ExtUnix.single_pread" unsafeSinglePread

def unsafePread (fd off : CamlInt) (buf : Buffer) :
    List Answer → Run :=
  BA.preadCommon fd (longVal off) buf (bitNoIntr ||| bitNoError)

def pread : CamlInt → CamlInt → Buffer → List Answer → Run :=
  checkOffset "ExtUnix.pread" unsafePread

def unsafeIntrPread (fd off : CamlInt) (buf : Buffer) :
    List Answer → Run :=
  BA.preadCommon fd (longVal off) buf bitNoError

def intrPread : CamlInt → CamlInt → Buffer → List Answer → Run :=
  checkOffset "ExtUnix.intr_pread" unsafeIntrPread

def unsafeAllPwrite (fd off : CamlInt) (buf : Buffer) :
    List Answer → Run :=
  BA.pwriteCommon fd (longVal off) buf bitNoIntr

def allPwrite : CamlInt → CamlInt → Buffer → List Answer → Run :=
  checkOffset "ExtUnix.all_pwrite" unsafeAllPwrite

def unsafeSinglePwrite (fd off : CamlInt) (buf : Buffer) :
    List Answer → Run :=
  BA.pwriteCommon fd (longVal off) buf bitOnce

def singlePwrite : CamlInt → CamlInt → Buffer → List Answer → Run :=
  checkOffset "ExtUnix.single_pwrite" unsafeSinglePwrite

def unsafePwrite (fd off : CamlInt) (buf : Buffer) :
    List Answer → Run :=
  BA.pwriteCommon fd (longVal off) buf (bitNoIntr ||| bitNoError)

def pwrite : CamlInt → CamlInt → Buffer → List Answer → Run :=
  checkOffset "ExtUnix.pwrite" unsafePwrite

def unsafeIntrPwrite (fd off : CamlInt) (buf : Buffer) :
    List Answer → Run :=
  BA.pwriteCommon fd (longVal off) buf bitNoError

def intrPwrite : CamlInt → CamlInt → Buffer → List Answer → Run :=
  checkOffset "ExtUnix.intr_pwrite" unsafeIntrPwrite

def allRead (fd : CamlInt) (buf : Buffer) : List Answer → Run :=
  BA.readCommon fd buf bitNoIntr

def singleRead (fd : CamlInt) (buf : Buffer) : List Answer → Run :=
  BA.readCommon fd buf bitOnce

def read (fd : CamlInt) (buf : Buffer) : List Answer → Run :=
  BA.readCommon fd buf (bitNoIntr ||| bitNoError)

def intrRead (fd : CamlInt) (buf : Buffer) : List Answer → Run :=
  BA.readCommon fd buf bitNoError

def allWrite (fd : CamlInt) (buf : Buffer) : List Answer → Run :=
  BA.writeCommon fd buf bitNoIntr

def singleWrite (fd : CamlInt) (buf : Buffer) : List Answer → Run :=
  BA.writeCommon fd buf bitOnce

def write (fd : CamlInt) (buf : Buffer) : List Answer → Run :=
  BA.writeCommon fd buf (bitNoIntr ||| bitNoError)

def intrWrite (fd : CamlInt) (buf : Buffer) : List Answer → Run :=
  BA.writeCommon fd buf bitNoError

end BA

/-! The sixteen functions of each variant behind one name, so that a property
of all of them can be stated once. -/

inductive Kind where
  | all
  | single
  | plain
  | intr
  deriving DecidableEq, Repr

def Kind.mode : Kind → BitVec 32
  | .all => bitNoIntr
  | .single => bitOnce
  | .plain => bitNoIntr ||| bitNoError
  | .intr => bitNoError

inductive Operation where
  | read
  | write
  | pread (off : CamlInt)
  | pwrite (off : CamlInt)
  deriving DecidableEq

def Operation.direction : Operation → Direction
  | .read | .pread _ => .reading
  | .write | .pwrite _ => .writing

def Operation.off? : Operation → Option CamlInt
  | .read | .write => none
  | .pread off | .pwrite off => some off

def Operation.name : Operation → String
  | .read => "read"
  | .write => "write"
  | .pread _ => "pread"
  | .pwrite _ => "pwrite"

def stringCall (unixBufferSize : Nat) (kind : Kind) (operation : Operation)
    (fd : CamlInt) (buf : Buffer) (ofs len : CamlInt)
    (answers : List Answer) : Run :=
  match operation, kind with
  | .read, .all => allRead unixBufferSize fd buf ofs len answers
  | .read, .single => singleRead unixBufferSize fd buf ofs len answers
  | .read, .plain => read unixBufferSize fd buf ofs len answers
  | .read, .intr => intrRead unixBufferSize fd buf ofs len answers
  | .write, .all => allWrite unixBufferSize fd buf ofs len answers
  | .write, .single => singleWrite unixBufferSize fd buf ofs len answers
  | .write, .plain => write unixBufferSize fd buf ofs len answers
  | .write, .intr => intrWrite unixBufferSize fd buf ofs len answers
  | .pread off, .all =>
      allPread unixBufferSize fd off buf ofs len answers
  | .pread off, .single =>
      singlePread unixBufferSize fd off buf ofs len answers
  | .pread off, .plain =>
      pread unixBufferSize fd off buf ofs len answers
  | .pread off, .intr =>
      intrPread unixBufferSize fd off buf ofs len answers
  | .pwrite off, .all =>
      allPwrite unixBufferSize fd off buf ofs len answers
  | .pwrite off, .single =>
      singlePwrite unixBufferSize fd off buf ofs len answers
  | .pwrite off, .plain =>
      pwrite unixBufferSize fd off buf ofs len answers
  | .pwrite off, .intr =>
      intrPwrite unixBufferSize fd off buf ofs len answers

def largeFileCall (unixBufferSize : Nat) (kind : Kind) (direction : Direction)
    (fd : CamlInt) (off : BitVec 64) (buf : Buffer) (ofs len : CamlInt)
    (answers : List Answer) : Run :=
  match direction, kind with
  | .reading, .all =>
      LargeFile.allPread unixBufferSize fd off buf ofs len answers
  | .reading, .single =>
      LargeFile.singlePread unixBufferSize fd off buf ofs len answers
  | .reading, .plain =>
      LargeFile.pread unixBufferSize fd off buf ofs len answers
  | .reading, .intr =>
      LargeFile.intrPread unixBufferSize fd off buf ofs len answers
  | .writing, .all =>
      LargeFile.allPwrite unixBufferSize fd off buf ofs len answers
  | .writing, .single =>
      LargeFile.singlePwrite unixBufferSize fd off buf ofs len answers
  | .writing, .plain =>
      LargeFile.pwrite unixBufferSize fd off buf ofs len answers
  | .writing, .intr =>
      LargeFile.intrPwrite unixBufferSize fd off buf ofs len answers

def bigarrayCall (kind : Kind) (operation : Operation) (fd : CamlInt)
    (buf : Buffer) (answers : List Answer) : Run :=
  match operation, kind with
  | .read, .all => BA.allRead fd buf answers
  | .read, .single => BA.singleRead fd buf answers
  | .read, .plain => BA.read fd buf answers
  | .read, .intr => BA.intrRead fd buf answers
  | .write, .all => BA.allWrite fd buf answers
  | .write, .single => BA.singleWrite fd buf answers
  | .write, .plain => BA.write fd buf answers
  | .write, .intr => BA.intrWrite fd buf answers
  | .pread off, .all => BA.allPread fd off buf answers
  | .pread off, .single => BA.singlePread fd off buf answers
  | .pread off, .plain => BA.pread fd off buf answers
  | .pread off, .intr => BA.intrPread fd off buf answers
  | .pwrite off, .all => BA.allPwrite fd off buf answers
  | .pwrite off, .single => BA.singlePwrite fd off buf answers
  | .pwrite off, .plain => BA.pwrite fd off buf answers
  | .pwrite off, .intr => BA.intrPwrite fd off buf answers

inductive Target where
  | string (buf : Buffer) (ofs len : CamlInt)
  | bigarray (buf : Buffer)
  deriving DecidableEq

def transfer (unixBufferSize : Nat) (kind : Kind) (operation : Operation)
    (fd : CamlInt) (target : Target) (answers : List Answer) : Run :=
  match target with
  | .string buf ofs len =>
      stringCall unixBufferSize kind operation fd buf ofs len answers
  | .bigarray buf => bigarrayCall kind operation fd buf answers

end ExtUnix.Transfer
