import MeasuredJob.Plugin.Basic

/-!
# Mounting a volume

Five addons that each add one volume to the composition.  They differ in the source of the volume
and in the options that describe it.  They leave the containers alone.
-/

namespace MeasuredJob
namespace Mount

inductive Kind where
  | configMap
  | secret
  | persistentVolumeClaim
  | hostPath
  | emptyDir
deriving DecidableEq, Repr

namespace Kind

def identifier : Kind → String
  | .configMap => "volume-cm"
  | .secret => "volume-secret"
  | .persistentVolumeClaim => "volume-pvc"
  | .hostPath => "volume-hostpath"
  | .emptyDir => "volume-empty"

def summary : Kind → String
  | .configMap => "config map volume type"
  | .secret => "secret volume type"
  | .persistentVolumeClaim => "persistent volume claim volume type"
  | .hostPath => "host path volume type"
  | .emptyDir => "empty volume type"

/-- The option that says which existing object the volume refers to.  Scratch space refers to
none. -/
def referenceKey? : Kind → Option String
  | .configMap => some "configMapName"
  | .secret => some "secretName"
  | .persistentVolumeClaim => some "claimName"
  | .hostPath => some "hostPath"
  | .emptyDir => none

def itemsKey? : Kind → Option String
  | .configMap => some "items"
  | _ => none

def source (kind : Kind) (reference : String) (items : Table String) : VolumeSource :=
  match kind with
  | .configMap => .configMap reference items
  | .secret => .secret reference
  | .persistentVolumeClaim => .persistentVolumeClaim reference
  | .hostPath => .hostPath reference
  | .emptyDir => .emptyDir

end Kind

/-- The options of every kind.  A kind without a reference or without items never sets them. -/
structure Options where
  name : String := ""
  path : String := ""
  readOnly : Bool := false
  /-- Declare the volume but mount it nowhere. -/
  declareOnly : Bool := false
  reference : String := ""
  items : Table String := ∅
deriving DecidableEq, Inhabited

def readOptions (kind : Kind) (bag : OptionBag) : Options :=
  { name := bag.textOr "name" ""
    path := bag.textOr "path" ""
    readOnly := bag.flag "readOnly"
    declareOnly := bag.flag "declareOnly"
    reference := match kind.referenceKey? with
      | some key => bag.textOr key ""
      | none => ""
    items := match kind.itemsKey? with
      | some key => bag.textMap key
      | none => ∅ }

def writeOptions (kind : Kind) (options : Options) : OptionBag :=
  let shared := OptionBag.empty
    |>.setText "name" options.name
    |>.setText "path" options.path
    |>.setFlag "readOnly" options.readOnly
    |>.setFlag "declareOnly" options.declareOnly
  let referring := match kind.referenceKey? with
    | some key => shared.setText key options.reference
    | none => shared
  match kind.itemsKey? with
  | some key => referring.exportTextMap key options.items
  | none => referring

/-- A kind that refers to an object needs its name. -/
def validateReference (kind : Kind) (options : Options) : Option Error :=
  match kind.referenceKey? with
  | none => none
  | some key =>
    if options.reference = "" then
      some (.validation kind.identifier key ("'" ++ key ++ "' is required"))
    else none

def validate (kind : Kind) (options : Options) : Option Error :=
  if options.name = "" then
    some (.validation kind.identifier "name" "volume addons require a 'name'")
  else if options.path = "" then
    some (.validation kind.identifier "path"
      "volume addons require a 'path' for the container mount")
  else validateReference kind options

def volume (kind : Kind) (options : Options) : Volume :=
  { name := options.name
    source := kind.source options.reference options.items
    path := options.path
    readOnly := options.readOnly
    mount := !options.declareOnly }

/-- Volumes belong to the whole composition, so the scope is never restricted. -/
def addon (kind : Kind) (options : Options) : Addon where
  scope := {}
  volumes := [volume kind options]

def plugin (kind : Kind) : Plugin Addon where
  descriptor := { identifier := kind.identifier, summary := kind.summary, family := .storage }
  State := Options
  fresh := {}
  configure bag _ := (readOptions kind bag, none)
  validate := validate kind
  options := writeOptions kind
  behaviour := addon kind

end Mount
end MeasuredJob
