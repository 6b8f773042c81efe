import Workbench.Files.Path

set_option autoImplicit false

namespace Workbench.MediaType

def table : List (String × String) := [
  ("7z", "application/x-7z-compressed"), ("aac", "audio/aac"), ("aif", "audio/aiff"),
  ("aiff", "audio/aiff"), ("apng", "image/apng"), ("appcache", "text/cache-manifest"),
  ("asm", "text/plain"), ("atom", "application/atom+xml"), ("avi", "video/x-msvideo"),
  ("avif", "image/avif"), ("bin", "application/octet-stream"), ("bmp", "image/bmp"),
  ("bz", "application/x-bzip"), ("bz2", "application/x-bzip2"), ("c", "text/plain"),
  ("cc", "text/plain"), ("config", "application/xml"), ("cpp", "text/plain"),
  ("cs", "text/plain"), ("css", "text/css"), ("csv", "text/csv"), ("cxx", "text/plain"),
  ("doc", "application/msword"),
  ("docx", "application/vnd.openxmlformats-officedocument.wordprocessingml.document"),
  ("dtd", "text/xml"), ("eml", "message/rfc822"), ("eot", "application/vnd.ms-fontobject"),
  ("eps", "application/postscript"), ("epub", "application/epub+zip"), ("flac", "audio/flac"),
  ("flv", "video/x-flv"), ("gif", "image/gif"), ("gz", "application/gzip"),
  ("h", "text/plain"), ("hpp", "text/plain"), ("hta", "application/hta"), ("htm", "text/html"),
  ("html", "text/html"), ("ico", "image/x-icon"), ("ics", "text/calendar"),
  ("jar", "application/java-archive"), ("jpe", "image/jpeg"), ("jpeg", "image/jpeg"),
  ("jpg", "image/jpeg"), ("js", "text/javascript"), ("json", "application/json"),
  ("json5", "application/json5"), ("jsonld", "application/ld+json"), ("log", "text/plain"),
  ("m3u8", "application/vnd.apple.mpegurl"), ("m4a", "audio/m4a"), ("m4v", "video/x-m4v"),
  ("map", "text/plain"), ("markdown", "text/markdown"), ("md", "text/markdown"),
  ("mht", "message/rfc822"), ("mhtml", "message/rfc822"), ("mid", "audio/mid"),
  ("mjs", "text/javascript"), ("mkv", "video/x-matroska"), ("mov", "video/quicktime"),
  ("mp3", "audio/mpeg"), ("mp4", "video/mp4"), ("mpeg", "video/mpeg"), ("mpg", "video/mpeg"),
  ("oga", "audio/ogg"), ("ogg", "audio/ogg"), ("ogv", "video/ogg"), ("opus", "audio/ogg"),
  ("otf", "font/otf"), ("pdf", "application/pdf"), ("png", "image/png"),
  ("ppt", "application/vnd.ms-powerpoint"),
  ("pptx", "application/vnd.openxmlformats-officedocument.presentationml.presentation"),
  ("ps", "application/postscript"), ("rdf", "application/rdf+xml"),
  ("rss", "application/rss+xml"), ("rtf", "application/rtf"), ("sh", "application/x-sh"),
  ("sql", "application/x-sql"), ("svg", "image/svg+xml"), ("svgz", "image/svg+xml"),
  ("swf", "application/x-shockwave-flash"), ("tar", "application/x-tar"),
  ("tif", "image/tiff"), ("tiff", "image/tiff"), ("toml", "text/x-toml"),
  ("ts", "video/vnd.dlna.mpeg-tts"), ("tsv", "text/tab-separated-values"),
  ("ttf", "font/ttf"), ("txt", "text/plain"), ("vtt", "text/vtt"),
  ("wasm", "application/wasm"), ("wav", "audio/wav"), ("weba", "audio/webm"),
  ("webm", "video/webm"), ("webmanifest", "application/manifest+json"),
  ("webp", "image/webp"), ("woff", "font/woff"), ("woff2", "font/woff2"),
  ("xht", "application/xhtml+xml"), ("xhtml", "application/xhtml+xml"),
  ("xls", "application/vnd.ms-excel"),
  ("xlsx", "application/vnd.openxmlformats-officedocument.spreadsheetml.sheet"),
  ("xml", "text/xml"), ("xsd", "text/xml"), ("xsl", "text/xml"), ("xslt", "text/xml"),
  ("yaml", "text/x-yaml"), ("yml", "text/x-yaml"), ("zip", "application/zip")]

def unknown : String := "application/octet-stream"

def ofPath (path : Path) : String :=
  match path.extension? with
  | none => unknown
  | some extension =>
      (table.lookup (String.ofList (extension.map Char.toLower))).getD unknown

end Workbench.MediaType
