import ThermalPrint.Encode.Job
import ThermalPrint.Image.Fit
import ThermalPrint.Markup.Compile

/-
From what a caller wants printed to the bytes for it, without a printer: images are
fitted to the line, markup is compiled, and the job is encoded.
-/

namespace ThermalPrint

/-- What is to be printed: markup, or a single image. -/
inductive PrintSource
  | markup (text : Text)
  | image (b : Bitmap)

/-- How it is to be printed: the images that markup may name, of which some may be
known to be missing, whether to go on without those that cannot be had, and whether to
cut the paper. -/
structure PrintOptions where
  images : List (Text × Option Bitmap) := []
  imageOptional : Bool := false
  cut : Bool := false

namespace Render

/-- The raster of one supplied image; none if it may be left out and has to be. -/
def resolveImage (config : SessionConfig) (imageOptional : Bool) (name : Text) :
    Option Bitmap → Except Fault (Option Raster)
  | none => if imageOptional then .ok none else .error (ImageFault.missing name).toFault
  | some b =>
    match b.fit config.dotsPerLine with
    | .ok r => .ok (some r)
    | .error fault =>
      if imageOptional && fault.isA .invalidImage then .ok none else .error fault

/-- The rasters of the supplied images. -/
def resolveImages (config : SessionConfig) (imageOptional : Bool)
    (images : List (Text × Option Bitmap)) : Except Fault (List (Text × Option Raster)) :=
  images.mapM fun (name, b) => (resolveImage config imageOptional name b).map fun r => (name, r)

def supplied : Option Raster → Markup.Supplied
  | some r => .raster r
  | none => .unavailable

def handles (rasters : List (Text × Option Raster)) : Markup.Images :=
  rasters.map fun (name, r) => (name, supplied r)

def buildJob (config : SessionConfig) (source : PrintSource) (options : PrintOptions) :
    Except Fault Job :=
  match source with
  | .markup text =>
    match resolveImages config options.imageOptional options.images with
    | .error fault => .error fault
    | .ok rasters =>
      match Markup.compile (handles rasters) ⟨options.imageOptional, options.cut⟩ text with
      | .error fault => .error (.print fault.toPrintError)
      | .ok job => .ok job
  | .image (.foreign typeName) => .error (ImageFault.notASource typeName).toFault
  | .image b =>
    match b.fit config.dotsPerLine with
    | .error fault => .error fault
    | .ok r => .ok (.image r .center :: if options.cut then [.cut] else [])

/-- The bytes for a source. -/
def bytes (config : SessionConfig) (source : PrintSource) (options : PrintOptions) :
    Except Fault (List UInt8) :=
  match buildJob config source options with
  | .error fault => .error fault
  | .ok job =>
    match Encode.job config job with
    | .error fault => .error fault.toFault
    | .ok bytes => .ok bytes

end Render
end ThermalPrint
