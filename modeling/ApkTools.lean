import ApkTools.Blob
import ApkTools.Version
import ApkTools.Dependency
import ApkTools.Grammar
import ApkTools.RoundTrip
import ApkTools.DepList
import ApkTools.Gunzip.Model
import ApkTools.Gunzip.Framing
import ApkTools.Gunzip.Returns
import ApkTools.Gunzip.Decoding
import ApkTools.Gunzip.Callback
import ApkTools.Gunzip.Ostream
import ApkTools.Info.Fields
import ApkTools.Info.Applet
import ApkTools.Url
import ApkTools.Verify
import ApkTools.Adb.Value
import ApkTools.Adb.Scalar
import ApkTools.Adb.PkgInfo
import ApkTools.Adb.Schema
import ApkTools.Database
