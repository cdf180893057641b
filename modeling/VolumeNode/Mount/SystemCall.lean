import VolumeNode.Program
import VolumeNode.VolumeError
import VolumeNode.Mount.Options

/-!
# Mounting by system calls

A mount with the option `bind` or `rbind` is a bind, then a remount for the other flags if there are
any; when the remount fails the bind is undone. Any other mount is a single call with the file system
type and the data. Main statement:
`perform_of_nul`: a name that holds NUL never reaches the kernel.
-/

namespace VolumeNode

/-- A system call that changes the mount table. -/
inductive SystemCall where
  | mount (source : Option String) (target : String) (fsType : Option String) (flags : MountFlags)
    (data : Option String)
  | unmount (target : String)
  deriving DecidableEq, Repr

namespace SystemCall

/-- The kernel answers nothing but whether the call failed. -/
def interface : Interface where
  Question := SystemCall
  Answer _ := Except Errno Unit

/-- Whether a name holds NUL. -/
def hasNul (s : String) : Bool :=
  s.toList.any (·.toNat == 0)

/-- The names in a call. -/
def names : SystemCall → List String
  | .mount source target fsType _ data => source.toList ++ target :: fsType.toList ++ data.toList
  | .unmount target => [target]

/-- A call with a name that holds NUL is refused and not made. -/
def perform (c : SystemCall) : Program interface (Except Errno Unit) :=
  if c.names.any hasNul then .done (.error .invalid) else .single c

/-- The failure of a system call as one of a volume call. -/
def lift (p : Program interface (Except Errno Unit)) : Program interface (Except VolumeError Unit) :=
  p.bind fun r => .done (r.mapError .mount)

/-- Mounts with options. A bind takes neither the file system type nor data. -/
def mounting (source target : String) (fsType : Option String) (options : List String) :
    Program interface (Except VolumeError Unit) :=
  let parsed := MountOptions.parse options
  if parsed.flags.holds .bind then
    let (first, others) := MountOptions.splitBind parsed.flags
    lift <| (perform (.mount (some source) target none first none)).andThen fun () =>
      if others.isEmpty then .done (.ok ())
      else
        (perform (.mount none target none (.remount ∪ .bind ∪ others) none)).bind fun
          | .ok () => .done (.ok ())
          | .error e => (perform (.unmount target)).bind fun _ => .done (.error e)
  else
    let data := if parsed.data.isEmpty then none else some (",".intercalate parsed.data)
    lift (perform (.mount (some source) target fsType parsed.flags data))

/-- Unmounts. -/
def unmounting (target : String) : Program interface (Except VolumeError Unit) :=
  lift (perform (.unmount target))

/-- A name that holds NUL never reaches the kernel. -/
theorem perform_of_nul {c : SystemCall} (h : c.names.any hasNul = true) :
    perform c = .done (.error .invalid) :=
  if_pos h

/-- A call without NUL in its names is made. -/
theorem perform_of_not_nul {c : SystemCall} (h : ¬ c.names.any hasNul = true) :
    perform c = .single (I := interface) c :=
  if_neg h

end SystemCall

end VolumeNode
