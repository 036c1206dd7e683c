import DeckPress.Picture.Anymap
import DeckPress.Picture.Avif
import DeckPress.Picture.Bitmap
import DeckPress.Picture.Film
import DeckPress.Picture.Fits
import DeckPress.Picture.FixedHead
import DeckPress.Picture.Gif
import DeckPress.Picture.Icon
import DeckPress.Picture.Jpeg
import DeckPress.Picture.Layered
import DeckPress.Picture.Metafile
import DeckPress.Picture.Png
import DeckPress.Picture.Postscript
import DeckPress.Picture.Spider
import DeckPress.Picture.TextHead
import DeckPress.Picture.Texture
import DeckPress.Picture.Tiff
import DeckPress.Picture.Wavelet
import DeckPress.Picture.Webp
import DeckPress.Picture.Wire

/-!
# Reading pictures

Bytes are tried as one kind of picture after the other, until one kind fits or one is known to be
broken. The kinds that a slide cannot hold are known only to be refused by name.
-/
namespace DeckPress.Picture

/-- Bytes as a picture of a kind that a slide can hold, or the size of one that it cannot. -/
inductive Kind
  | usable (read : Bytes → Except Fault Picture)
  | foreign (name : String) (size : Bytes → Except Fault Size)

def Kind.read (bs : Bytes) : Kind → Except Fault Picture
  | usable read => read bs
  | foreign name size => do
    let _ ← size bs
    throw (.unsupported name)

/-- The kinds of pictures in the order in which they are tried. -/
def kinds : List Kind :=
  [.usable Bitmap.read, .foreign "DIB" Bitmap.readBare, .usable Gif.read, .usable Jpeg.read,
    .foreign "PPM" Anymap.read, .usable Png.read, .foreign "AVIF" Avif.read,
    .foreign "BLP" Texture.blp, .foreign "BUFR" FixedHead.bufr, .foreign "CUR" Icon.cursor,
    .foreign "PCX" FixedHead.pcx, .foreign "DCX" FixedHead.dcx, .foreign "DDS" Texture.dds,
    .foreign "EPS" Postscript.read, .foreign "FITS" Fits.read, .foreign "FLI" Film.read,
    .foreign "FTEX" Texture.ftex, .foreign "GBR" FixedHead.gbr, .foreign "GRIB" FixedHead.grib,
    .foreign "HDF5" FixedHead.hdf5, .foreign "JPEG2000" Wavelet.read, .foreign "ICNS" Icon.set,
    .foreign "ICO" Icon.read, .foreign "IM" TextHead.im, .foreign "IMT" TextHead.imt,
    .foreign "IPTC" Wire.read, .foreign "MCIDAS" FixedHead.mcidas, .foreign "MPEG" FixedHead.mpeg,
    .usable Tiff.read, .foreign "MSP" FixedHead.msp, .foreign "PCD" FixedHead.pcd,
    .foreign "PIXAR" FixedHead.pixar, .foreign "PSD" Layered.read, .foreign "QOI" FixedHead.qoi,
    .foreign "SGI" FixedHead.sgi, .foreign "SPIDER" Spider.read, .foreign "SUN" FixedHead.sun,
    .foreign "TGA" FixedHead.tga, .foreign "WEBP" Webp.read, .usable Metafile.read,
    .foreign "XBM" TextHead.xbm, .foreign "XPM" TextHead.xpm, .foreign "XVTHUMB" TextHead.xv]

def firstOf (bs : Bytes) : List Kind → Except Fault Picture
  | [] => .error .unknown
  | k :: ks =>
    match k.read bs with
    | .error .unknown => firstOf bs ks
    | result => result

def read (bs : Bytes) : Except Fault Picture := firstOf bs kinds

end DeckPress.Picture
